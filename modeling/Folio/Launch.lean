import Folio.Demo
import Folio.Engine
import Folio.Failure
import Folio.Settings
/-!
# A launch of the program

What the program does once it is started: it reads its command line and its settings, sets up the
log, and renders one view of the demo site or listens for requests to it. `Launch.run` tells the
exit code, the output and the lines of the log from what the launch meets.
-/

namespace Folio

/-- What a launch meets: arguments, environment, files, and why an address cannot be listened on. -/
structure Launch where
  arguments : List String
  environment : List (String × String)
  files : Settings.Files
  refusal : Settings.Address → Option String

/-- A line of the log: a bare text, or a record in the form that the settings ask for. -/
inductive LogLine where
  | note (text : String)
  | record (asJson : Bool) (r : Record)
  deriving DecidableEq, Repr

/-- How a launch ends. -/
structure Outcome where
  code : Nat
  output : Content
  lines : List LogLine
  deriving DecidableEq

namespace Launch

open CommandLine (Command Invocation Refusal)

/-- The name and the version of the program. -/
def version : String := "trellis 0.1.0"

/-- The variable of the environment that names the configuration file. -/
def configFileVariable : String := "TRELLIS_CONFIG_FILE"

/-- The variable of the environment that holds the directives of the log. -/
def filterVariable : String := "RUST_LOG"

/-- How a launch ends whose command line is no command. Only the version is told here. -/
def refused : Refusal → Outcome
  | .displayVersion => ⟨0, .ofText (version ++ "\n"), []⟩
  | .displayHelp => ⟨0, .empty, []⟩
  | _ => ⟨2, .empty, []⟩

/-- The record of a failure of the whole program. -/
def failureRecord (f : Failure) : Record := ⟨.error, "trellis", "application error", [("error", .text f.message)]⟩

/-- The record of the start of listening. -/
def listeningRecord (a : Settings.Address) : Record := ⟨.info, "trellis", "listening", [("addr", .text a.shown)]⟩

/-- Carries out a command, with the records of what happens on the way. -/
def perform (l : Launch) (settings : Settings) : Option Command → Except Failure Content × List Record
  | some (.render _ view) =>
    match Demo.catalog with
    | .error e => (.error (.compose e), [])
    | .ok catalog =>
      let (result, journal) := Engine.renderToContent ⟨catalog, settings.options⟩ view
      (result.mapError .compose, journal.records .log)
  | _ =>
    match l.refusal settings.address with
    | some reason => (.error (.io reason), [])
    | none => (.ok .empty, [listeningRecord settings.address])

/-- How a launch ends whose settings are read. -/
def proceed (l : Launch) (settings : Settings) (command : Option Command) : Outcome :=
  let directives := (l.environment.lookup filterVariable).getD ""
  let filter := Filter.ofText directives settings.threshold
  let (result, records) := l.perform settings command
  let shown (records : List Record) : List LogLine :=
    (Filter.notes directives).map .note ++ (records.filter filter.shows).map (.record settings.logJson)
  match result with
  | .ok content => ⟨0, content, shown records⟩
  | .error f => ⟨1, .empty, shown (records ++ [failureRecord f])⟩

/-- The command line of a launch. -/
def invocation (l : Launch) : Except Refusal Invocation :=
  CommandLine.parse l.arguments (l.environment.lookup configFileVariable)

/-- How a launch ends. Where the settings cannot be read the log has not been set up yet. -/
def run (l : Launch) : Outcome :=
  match l.invocation with
  | .error refusal => refused refusal
  | .ok invocation =>
    match Settings.load invocation l.files l.environment with
    | .error fault =>
      let f := Failure.unexpected ("failed to load configuration: " ++ fault.message)
      ⟨1, .empty, [.record false (failureRecord f)]⟩
    | .ok settings => l.proceed settings invocation.command

end Launch

/-- A line of the log as text. -/
def LogLine.text : LogLine → String
  | note text => text
  | record asJson r => if asJson then r.json else r.line

end Folio
