import Folio.Engine
import Folio.Http.Request
import Folio.Http.Response
/-!
# Sites

A site answers requests from the catalog of an engine. The root shows the home view, a path for
checks says that the site is up, and any other path names a view, unless a segment of it marks it
as private. Pages are sent whole when their pass is over, or chunk by chunk while it runs.
-/

namespace Folio.Http

/-- An engine whose views are served, and whether responses are streamed. -/
structure Site where
  engine : Engine
  streamResponses : Bool

/-- What a path asks for. -/
inductive Route where
  | home
  | health
  /-- The rest of the path after its first slash. -/
  | view (rest : String)
  | unrouted
  deriving DecidableEq, Repr

/-- The route of a path. -/
def Route.ofPath (path : String) : Route :=
  if path = "/" then .home
  else if path = "/_health" then .health
  else
    match path.toList with
    | '/' :: rest => .view (String.ofList rest)
    | _ => .unrouted

/-- The methods that every route answers. -/
def allowed : String := "GET,HEAD"

/-- The view that the rest of a path names. -/
def viewOfRest (rest : String) : String :=
  String.ofList ('/' :: (rest.toList.reverse.dropWhile (· = '/')).reverse)

/-- A response, with what passes did before it was sent and after. -/
structure Exchange where
  response : Response
  before : Journal
  after : Journal

namespace Exchange

/-- A response that no pass stands behind. -/
def plain (response : Response) : Exchange := ⟨response, [], []⟩

/-- All that passes did. -/
def journal (e : Exchange) : Journal := e.before ++ e.after

/-- The records of an exchange: a buffered pass is over before its response is logged, a streamed
one starts after that. -/
def records (e : Exchange) (watcher : Watcher) (method path : String) : List Record :=
  e.before.records watcher ++ e.response.record method path :: e.after.records watcher

end Exchange

namespace Site

/-- Answers with the view at a path. Where `isRead` says so the body is read to its end, and
otherwise it is dropped before the first chunk. -/
def showView (site : Site) (requestId : String) (isRead : Bool) (view : String) : Exchange :=
  if site.streamResponses then
    if isRead then
      match site.engine.renderStream view with
      | .ok (chunks, journal) => ⟨.page requestId (.concat chunks), [], journal⟩
      | .error e => .plain (.ofError requestId e)
    else
      match site.engine.renderUnread view with
      | .ok journal => ⟨.page requestId .empty, [], journal⟩
      | .error e => .plain (.ofError requestId e)
  else
    match site.engine.renderToContent view with
    | (.ok content, journal) => ⟨.page requestId content, journal, []⟩
    | (.error e, journal) => ⟨.ofError requestId e, journal, []⟩

/-- Answers with the view that the rest of a path names, unless it is private. -/
def showRest (site : Site) (requestId : String) (isRead : Bool) (rest : String) : Exchange :=
  let view := viewOfRest rest
  if Path.isPrivate view then .plain (.ofPrivate requestId view)
  else site.showView requestId isRead view

/-- Answers a request that asks to read what is at a path. -/
def read (site : Site) (requestId : String) (isRead : Bool) : Route → Exchange
  | .home => site.showView requestId isRead "/index"
  | .health => .plain (.bare requestId 204)
  | .unrouted => .plain (.bare requestId 404)
  | .view rest =>
    match Text.text? (unescape (Text.encode rest)) with
    | some rest => site.showRest requestId isRead rest
    | none => .plain (.text requestId 400 "Invalid URL: Invalid UTF-8 in `path`" none)

/-- Answers a request for a path. -/
def respond (site : Site) (requestId method path : String) : Exchange :=
  match Route.ofPath path with
  | .unrouted => .plain (.bare requestId 404)
  | route =>
    if method = "GET" then site.read requestId true route
    else if method = "HEAD" then
      let exchange := site.read requestId false route
      { exchange with response := exchange.response.withoutBody }
    else .plain { Response.bare requestId 405 with allow := some allowed }

end Site
end Folio.Http
