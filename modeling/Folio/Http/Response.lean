import Folio.Content
import Folio.Failure
import Folio.Log
/-!
# Responses

What the site answers, and the record that the log keeps of it. An error reaches the client only as
a fixed text that depends on the kind of the error; the report behind it goes to the log.
-/

namespace Folio.Http

/-- A response: status, headers that the site sets, body, the report behind an error, and the id of
the request it answers. -/
structure Response where
  status : Nat
  contentType : Option String
  cacheControl : Option String
  allow : Option String
  body : Content
  report : Option Report
  requestId : String
  deriving DecidableEq, Repr

namespace Response

/-- A response without body. -/
def bare (requestId : String) (status : Nat) : Response := ⟨status, none, none, none, .empty, none, requestId⟩

/-- A page of markup. -/
def page (requestId : String) (body : Content) : Response :=
  ⟨200, some "text/html; charset=utf-8", some "no-cache", none, body, none, requestId⟩

/-- A line of plain text. -/
def text (requestId : String) (status : Nat) (body : String) (report : Option Report) : Response :=
  ⟨status, some "text/plain; charset=utf-8", none, none, .ofText body, report, requestId⟩

/-- The status and the text by which a client learns of an error. -/
def publicError : Error → Nat × String
  | .pageNotFound _ | .invalidPath _ _ => (404, "Page not found")
  | .sinkClosed => (500, "Response stream closed")
  | _ => (500, "Page rendering failed")

/-- The response to a request that ends with an error. -/
def ofError (requestId : String) (e : Error) : Response :=
  let (status, body) := publicError e
  text requestId status body
    (some (.ofFailure "application::error::compose_error_to_http_error" status (.compose e)))

/-- The response to a request for a page that only other pages reach. -/
def ofPrivate (requestId view : String) : Response :=
  text requestId 404 "Page not found"
    (some ⟨"infra::http::public::render_view", 404, ["view `" ++ view ++ "` is not publicly addressable"]⟩)

/-- The response as a client sees it who asks for no body. -/
def withoutBody (r : Response) : Response := { r with body := .empty }

/-- The record of a response to a request. -/
def record (r : Response) (method path : String) : Record :=
  let request := [("status", Field.number r.status), ("method", .text method), ("path", .text path)]
  if r.status < 400 then ⟨.debug, "trellis::http::response", "request served", request⟩
  else
    let (source, messages) :=
      match r.report with
      | some report => (report.source, report.messages)
      | none => ("unknown", [])
    let fields := request ++
      [("source", .text source), ("detail", .text (messages.head?.getD "no diagnostic available")),
        ("chain", .text (Text.quoteList messages))]
    if 500 ≤ r.status then ⟨.error, "trellis::http::response", "request failed", fields⟩
    else ⟨.warn, "trellis::http::response", "client request error", fields⟩

end Response
end Folio.Http
