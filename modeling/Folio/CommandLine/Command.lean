import Folio.CommandLine.Arguments
/-!
# Commands

The program renders one view, or serves all. Both commands take overrides of settings; only the
serving one takes those of the server and the log.
-/

namespace Folio.CommandLine

/-- Overrides of the settings of composing. -/
structure ComposeOverrides where
  maxLayoutDepth : Option Nat
  traceRegions : Option Bool
  deriving DecidableEq, Repr

/-- Overrides of all the settings that can be given on the command line. -/
structure ServeOverrides where
  compose : ComposeOverrides
  host : Option String
  port : Option Nat
  gracefulShutdownSeconds : Option Nat
  logLevel : Option String
  logJson : Option Bool
  streamResponses : Option Bool
  deriving DecidableEq, Repr

/-- No setting of composing is overridden. -/
def ComposeOverrides.none : ComposeOverrides := ⟨.none, .none⟩

/-- No setting is overridden. -/
def ServeOverrides.none : ServeOverrides := ⟨.none, .none, .none, .none, .none, .none, .none⟩

/-- What the program is asked to do. -/
inductive Command where
  | serve (overrides : ServeOverrides)
  | render (overrides : ComposeOverrides) (view : String)
  deriving DecidableEq, Repr

/-- A command line: the configuration file and the command, if they are given. -/
structure Invocation where
  configFile : Option String
  command : Option Command
  deriving DecidableEq, Repr

/-- The options of both commands. -/
def composeOptions : List (String × ValueKind) :=
  [("compose-max-layout-depth", .count), ("compose-trace-regions", .truth)]

/-- What comes before a command. -/
def topShape : Shape where
  options := [("config-file", .path)]
  hasVersion := true
  subcommands := ["serve", "render", "help"]
  takesPlain := false

/-- What the serving command takes. -/
def serveShape : Shape where
  options := composeOptions ++
    [("server-host", .text), ("server-port", .port), ("server-graceful-shutdown-seconds", .count),
      ("log-level", .text), ("log-json", .truth), ("compose-stream-responses", .truth)]
  hasVersion := false
  subcommands := []
  takesPlain := false

/-- What the rendering command takes. -/
def renderShape : Shape where
  options := composeOptions
  hasVersion := false
  subcommands := []
  takesPlain := true

/-- Reads all arguments of a command below which there are none. -/
def readLeaf (shape : Shape) (arguments : List String) : Except Refusal Reading :=
  match Reading.start.all shape arguments with
  | .error e => .error e
  | .ok (r, _) => r.settle

/-- The overrides that were read. -/
def composeOverrides (r : Reading) : ComposeOverrides :=
  ⟨r.number? "compose-max-layout-depth", r.truth? "compose-trace-regions"⟩

/-- The overrides that were read. -/
def serveOverrides (r : Reading) : ServeOverrides where
  compose := composeOverrides r
  host := r.text? "server-host"
  port := r.number? "server-port"
  gracefulShutdownSeconds := r.number? "server-graceful-shutdown-seconds"
  logLevel := r.text? "log-level"
  logJson := r.truth? "log-json"
  streamResponses := r.truth? "compose-stream-responses"

/-- What asking for help about commands leads to: only the top has commands below it. -/
def help : List String → Refusal
  | [] => .displayHelp
  | [command] => if command ∈ topShape.subcommands then .displayHelp else .invalidSubcommand
  | _ => .invalidSubcommand

/-- Reads a command with its arguments. -/
def readCommand (name : String) (arguments : List String) : Except Refusal Command :=
  if name = "serve" then (readLeaf serveShape arguments).map fun r => .serve (serveOverrides r)
  else if name = "render" then
    (readLeaf renderShape arguments).map fun r => .render (composeOverrides r) (r.plain.getD "/")
  else .error (help arguments)

/-- The configuration file: the option, or what the environment names where it is not given. -/
def configFile (r : Reading) (environment : Option String) : Except Refusal (Option String) :=
  match r.settle with
  | .error e => .error e
  | .ok r =>
    match r.text? "config-file", environment with
    | some path, _ => .ok (some path)
    | none, none => .ok none
    | none, some path => if path.isEmpty then .error .invalidValue else .ok (some path)

/-- Reads a command line, where `environment` is the configuration file that the environment names. -/
def parse (arguments : List String) (environment : Option String) : Except Refusal Invocation := do
  let (r, below) ← Reading.start.all topShape arguments
  let command ←
    match below with
    | none => pure none
    | some (name, rest) => some <$> readCommand name rest
  return ⟨← configFile r environment, command⟩

end Folio.CommandLine
