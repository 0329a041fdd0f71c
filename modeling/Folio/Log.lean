import Folio.Journal
/-!
# Log records and counts

What observers report of a journal. A pass is watched by the log, where warnings and regions become
records and warnings are counted, or by collectors, which take warnings and regions for themselves.
The remaining events are logged either way.
-/

namespace Folio

/-- How serious a log record is, the most serious first. -/
inductive Level where
  | error
  | warn
  | info
  | debug
  | trace
  deriving DecidableEq, Repr

namespace Level

/-- The name of a level in records. -/
def name : Level → String
  | error => "ERROR"
  | warn => "WARN"
  | info => "INFO"
  | debug => "DEBUG"
  | trace => "TRACE"

/-- The verbosity from which on records of a level are shown. -/
def verbosity : Level → Nat
  | error => 1
  | warn => 2
  | info => 3
  | debug => 4
  | trace => 5

end Level

/-- The value of a field of a record. -/
inductive Field where
  | text (s : String)
  | number (n : Nat)
  | bool (b : Bool)
  deriving DecidableEq, Repr

/-- The text of a field in a line of text. -/
def Field.shown : Field → String
  | text s => s
  | number n => toString n
  | bool b => toString b

/-- The text of a field in a line of JSON. -/
def Field.json : Field → String
  | text s => Text.jsonQuote s
  | number n => toString n
  | bool b => toString b

/-- A log record. -/
structure Record where
  level : Level
  target : String
  message : String
  fields : List (String × Field)
  deriving DecidableEq, Repr

namespace Record

/-- The record as a line of text, without its time. -/
def line (r : Record) : String :=
  r.level.name ++ " " ++ r.target ++ ": " ++ r.message ++
    String.join (r.fields.map fun (key, value) => " " ++ key ++ "=" ++ value.shown)

/-- The record as a line of JSON, without its time. -/
def json (r : Record) : String :=
  let fields := ("message", Field.text r.message) :: r.fields
  "\x7b\"level\":" ++ Text.jsonQuote r.level.name ++ ",\"fields\":\x7b" ++
    ",".intercalate (fields.map fun (key, value) => Text.jsonQuote key ++ ":" ++ value.json) ++
    "\x7d,\"target\":" ++ Text.jsonQuote r.target ++ "\x7d"

end Record

/-- Who watches the warnings and regions of passes. -/
inductive Watcher where
  | log
  | collector
  deriving DecidableEq, Repr

/-- The record of a warning. -/
def Diagnostic.record (d : Diagnostic) : Record :=
  ⟨.warn, "trellis::compose", d.message,
    [("kind", .text d.kind), ("template_path", .text d.template), ("detail", .text d.describe)]⟩

/-- The record of a region. -/
def Region.record : Region → Record
  | .opened path position length isLiteral =>
    ⟨.trace, "trellis::regions", "region begin",
      [("path", .text path), ("position", .number position), ("length", .number length),
        ("is_literal", .bool isLiteral)]⟩
  | .closed path => ⟨.trace, "trellis::regions", "region end", [("path", .text path)]⟩

/-- The records of an event. -/
def Event.records (watcher : Watcher) : Event → List Record
  | .warned d => if watcher = .log then [d.record] else []
  | .region r => if watcher = .log then [r.record] else []
  | .pulled name template =>
    [⟨.debug, "trellis::application::compose::composer", "rendering section",
      [("section", .text name), ("template_path", .text template)]⟩]
  | .discarded page sections =>
    [⟨.debug, "trellis::application::engine", "sections defined by a page without a layout are discarded",
      [("page", .text page),
        ("sections", .text ("SectionRegistry \x7b sections: " ++ Text.quoteList sections ++ " \x7d"))]⟩]
  | .streamFailed view e =>
    [⟨.error, "trellis::application::engine", "streamed render pass failed",
      [("view", .text view), ("error", .text e.message)]⟩]
  | .entered .. | .noted .. | .passed .. => []

/-- The records of a journal. -/
def Journal.records (watcher : Watcher) (j : Journal) : List Record := j.flatMap (·.records watcher)

/-! ## Counts -/

/-- Something that is counted. -/
inductive Metric where
  /-- A pass that ends well or not. -/
  | pass (succeeded : Bool)
  /-- The time that a pass takes, of which the samples are counted. -/
  | duration
  /-- A warning of a kind. -/
  | diagnostic (kind : String)
  deriving DecidableEq, Repr

/-- The name of a metric with its labels. -/
def Metric.label : Metric → String
  | pass succeeded =>
    "trellis_render_pass_total\x7boutcome=" ++ (if succeeded then "ok" else "error") ++ "\x7d"
  | duration => "trellis_render_pass_ms\x7b\x7d"
  | diagnostic kind => "trellis_compose_diagnostics_total\x7bkind=" ++ kind ++ "\x7d"

/-- What an event counts for. -/
def Event.metrics (watcher : Watcher) : Event → List Metric
  | .passed succeeded => [.pass succeeded, .duration]
  | .warned d => if watcher = .log then [.diagnostic d.kind] else []
  | _ => []

/-- The metrics that a journal counts for, one by one. -/
def Journal.metrics (watcher : Watcher) (j : Journal) : List Metric := j.flatMap (·.metrics watcher)

/-- How often each metric occurs. -/
def tally (ms : List Metric) : List (Metric × Nat) := ms.eraseDups.map fun m => (m, ms.count m)

end Folio
