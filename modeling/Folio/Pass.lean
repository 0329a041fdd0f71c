import Folio.Catalog
import Folio.Composer
/-!
# Passes

A pass renders a view: the view's page runs first, into a buffer of its own if it has a layout;
then its layout runs on behalf of what the page wrote and defined, and so on along the chain, until
a page without a layout writes into the sink that the pass was given. A page may render another
view in place, a partial, which is a chain of its own one level deeper.

Both the chain and the nesting are bounded by the same limit. `chain` runs with the number of
layouts that may still follow, `renderWithin` with the number of levels that may still be entered,
so each is recursion on what is left.
-/

namespace Folio

/-- What the pages of a pass have in common while one of them runs: the sink it writes into, the
shared data, and the journal. -/
structure Stage where
  sink : Sink
  data : PageData
  journal : Journal

namespace Stage

/-- The stage with more events. -/
def report (s : Stage) (events : Journal) : Stage := { s with journal := s.journal ++ events }

/-- Offers a write to the sink; one that is not taken is an error. -/
def write (s : Stage) (content : Content) : Except Error Unit × Stage :=
  let (taken, sink) := s.sink.write content
  (if taken then .ok () else .error .sinkClosed, { s with sink })

end Stage

/-- The state of one running page: its composer, the sections it has defined so far, and the stage. -/
structure Frame where
  composer : Composer
  sections : Registry
  stage : Stage

/-- How a partial is rendered: the path of its view, and the stage before and after. -/
abbrev PartialRenderer := String → Stage → Except Error Unit × Stage

namespace Frame

/-- What the operation `o` of a page at `path` does. -/
def perform (path : String) (renderPartial : PartialRenderer) : (o : Op) → Frame → o.Answer × Frame
  | .write content, f =>
    let (answer, stage) := f.stage.write content
    (answer, { f with stage })
  | .writeAt position markup, f =>
    let opened := f.stage.report (f.composer.openRegion position (Text.byteLength markup) true)
    let (answer, stage) := opened.write (.ofText markup)
    (answer, { f with stage := stage.report f.composer.closeRegion })
  | .openRegion position length isLiteral, f =>
    ((), { f with stage := f.stage.report (f.composer.openRegion position length isLiteral) })
  | .closeRegion, f => ((), { f with stage := f.stage.report f.composer.closeRegion })
  | .define name renderer, f =>
    match f.sections.define name renderer with
    | .error e => (.error e, f)
    | .ok sections => (.ok (), { f with sections })
  | .renderBody, f =>
    match f.composer.renderBody with
    | (.error e, composer) => (.error e, { f with composer })
    | (.ok body, composer) =>
      let (answer, stage) := f.stage.write body
      (answer, { f with composer, stage })
  | .ignoreBody, f => ((), { f with composer := f.composer.ignoreBody })
  | .isSectionDefined name, f => (f.composer.isSectionDefined name, f)
  | .renderSection name required, f =>
    let pull := f.composer.renderSection name required f.stage.sink
    (pull.result, { f with
      composer := pull.composer
      stage := { f.stage with sink := pull.sink }.report pull.events })
  | .ignoreSection name, f =>
    let (answer, composer) := f.composer.ignoreSection name
    (answer, { f with composer })
  | .renderPartial reference, f =>
    match Path.resolve path reference with
    | .error e => (.error e, f)
    | .ok target =>
      let (answer, stage) := renderPartial target f.stage
      (answer, { f with stage })
  | .getData key, f => (f.stage.data.get? key, f)
  | .setData key value, f =>
    ((), { f with stage := { f.stage with data := f.stage.data.set key value } })
  | .removeData key, f =>
    let (value, data) := f.stage.data.remove key
    (value, { f with stage := { f.stage with data } })
  | .about, f => (⟨path, f.composer.view, f.composer.isLayout⟩, f)
  | .note text, f => ((), { f with stage := f.stage.report [.noted path text] })

end Frame

/-- The composer of a page that runs on behalf of `child`, if there is one. -/
def Composer.forPage (page : Page) (view : String) (child : Option Child) (traced : Bool) : Composer :=
  match child with
  | some child => .forLayout page.path view child traced
  | none => .unbound page.path view traced

/-- Runs one page: the sections it defined, or the error it ended with. A page that succeeds is
asked what it left unused of its child. -/
def Page.execute (page : Page) (composer : Composer) (renderPartial : PartialRenderer) (depth : Nat)
    (stage : Stage) : Except Error Registry × Stage :=
  let start : Frame := ⟨composer, .empty, stage.report [.entered page.path depth]⟩
  let (outcome, frame) := page.program.run (Frame.perform page.path renderPartial) start
  match outcome with
  | .error e => (.error e, frame.stage)
  | .ok () => (.ok frame.sections, frame.stage.report (frame.composer.unused.map .warned))

/-- The events of the last page of a chain that ends with sections nobody will pull. -/
def Page.leftover (page : Page) (sections : Registry) : Journal :=
  if sections.isEmpty then [] else [.discarded page.path sections.names]

/-- The options of an engine. The limit bounds the layouts of a chain and the nesting of partials;
a stream holds at most so many chunks that are not read yet. -/
structure Options where
  maxLayoutDepth : Nat
  traceRegions : Bool
  streamBufferChunks : Nat
  deriving DecidableEq, Repr

/-- The options where nothing else is said. -/
def Options.standard : Options := ⟨8, false, 16⟩

/-- A catalog with the options by which its views are rendered. -/
structure Engine where
  catalog : Catalog
  options : Options

namespace Engine

/-- What the page just run hands to its layout: no body if it wrote no bytes. -/
def childOf (sections : Registry) (body : Content) : Child :=
  ⟨sections, if body.isEmpty then none else some body⟩

/-- Runs the chain that starts at `page`, where `links` more layouts may follow. -/
def chain (engine : Engine) (view : String) (renderPartial : PartialRenderer) (depth : Nat) :
    (links : Nat) → Page → Option Child → Stage → Except Error Unit × Stage
  | links, page, child, stage =>
    match page.layoutPath with
    | .error e => (.error e, stage)
    | .ok layout =>
      let composer := Composer.forPage page view child engine.options.traceRegions
      match layout with
      | none =>
        let (outcome, after) := page.execute composer renderPartial depth stage
        match outcome with
        | .error e => (.error e, after)
        | .ok sections => (.ok (), after.report (page.leftover sections))
      | some layout =>
        match links with
        | 0 => (.error (.layoutDepthExceeded view engine.options.maxLayoutDepth), stage)
        | links + 1 =>
          let (outcome, after) := page.execute composer renderPartial depth { stage with sink := .buffer }
          let resumed := { after with sink := stage.sink }
          match outcome with
          | .error e => (.error e, resumed)
          | .ok sections =>
            match engine.catalog.get layout with
            | .error e => (.error e, resumed)
            | .ok next =>
              engine.chain view renderPartial depth links next (some (childOf sections after.sink.output)) resumed

/-- Renders the view at `path`, where `levels` levels of nesting may still be entered. -/
def renderWithin (engine : Engine) : (levels : Nat) → (path : String) → Stage → Except Error Unit × Stage
  | levels, path, stage =>
    match Path.normalize path with
    | .error e => (.error e, stage)
    | .ok view =>
      match levels with
      | 0 => (.error (.layoutDepthExceeded view engine.options.maxLayoutDepth), stage)
      | levels + 1 =>
        match engine.catalog.get view with
        | .error e => (.error e, stage)
        | .ok page =>
          engine.chain view (engine.renderWithin levels) (engine.options.maxLayoutDepth - levels)
            engine.options.maxLayoutDepth page none stage

/-- Renders the view at `path` at a depth of nesting; the view that a pass is for has depth zero. -/
def renderAtDepth (engine : Engine) (depth : Nat) (path : String) (stage : Stage) :
    Except Error Unit × Stage :=
  engine.renderWithin (engine.options.maxLayoutDepth + 1 - depth) path stage

end Engine
end Folio
