import Folio.Channel
import Folio.Pass
/-!
# Rendering views

The ways to render a view: into a sink with data, into one fragment, or as a stream of chunks. Each
is one pass. A stream is refused before its pass starts if its view is not there; whatever fails
later ends it early and is reported in the journal.
-/

namespace Folio

/-- A finished pass: the data as the pages left it or the error it ended with, the sink, and the
journal. -/
structure Pass where
  result : Except Error PageData
  sink : Sink
  journal : Journal

namespace Engine

/-- Renders the view at `path` into a sink, with data for the pages to share. -/
def renderWithData (engine : Engine) (path : String) (sink : Sink) (data : PageData) : Pass :=
  let (outcome, stage) := engine.renderAtDepth 0 path ⟨sink, data, []⟩
  match outcome with
  | .ok () => ⟨.ok stage.data, stage.sink, stage.journal ++ [.passed true]⟩
  | .error e => ⟨.error e, stage.sink, stage.journal ++ [.passed false]⟩

/-- Renders the view at `path` into a sink. -/
def render (engine : Engine) (path : String) (sink : Sink) : Pass :=
  engine.renderWithData path sink .empty

/-- Renders the view at `path` into one fragment. -/
def renderToContent (engine : Engine) (path : String) : Except Error Content × Journal :=
  let pass := engine.render path .buffer
  (pass.result.map fun _ => pass.sink.output, pass.journal)

/-- The view that a stream is asked for, if it is there. -/
def streamedView (engine : Engine) (path : String) : Except Error String :=
  match Path.normalize path with
  | .error e => .error e
  | .ok view => if engine.catalog.contains view then .ok view else .error (.pageNotFound view)

/-- The journal of a streamed pass, which reports the error that it ends with. -/
def streamJournal (view : String) (pass : Pass) : Journal :=
  match pass.result with
  | .ok _ => pass.journal
  | .error e => pass.journal ++ [.streamFailed view e]

/-- Renders the view at `path` as chunks for a reader who reads to the end. -/
def renderStream (engine : Engine) (path : String) : Except Error (List Content × Journal) :=
  (engine.streamedView path).map fun view =>
    let pass := engine.render view .buffer
    ((Channel.new engine.options.streamBufferChunks).transfer pass.sink.writes, streamJournal view pass)

/-- Renders the view at `path` as chunks for a reader who is gone before the first one. -/
def renderUnread (engine : Engine) (path : String) : Except Error Journal :=
  (engine.streamedView path).map fun view => streamJournal view (engine.render view .unread)

end Engine
end Folio
