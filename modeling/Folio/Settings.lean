import Folio.CommandLine.Command
import Folio.Log.Filter
import Folio.Pass
import Folio.Settings.Address
import Folio.Settings.Layer
/-!
# Settings

The program has nine settings. They are read from layers: two files that may be missing, the file
that the command line names, the environment, and the options of the command on top. What no layer
gives has a default. The values that win are checked in a fixed order, and only they are.

`Given` holds what layers give, `Settings.ofGiven` fills in the defaults and checks, and
`Settings.load` does all of it.
-/

namespace Folio

/-- The settings of the program. -/
structure Settings where
  address : Settings.Address
  gracefulShutdownSeconds : Nat
  threshold : Threshold
  logJson : Bool
  maxLayoutDepth : Nat
  traceRegions : Bool
  streamBufferChunks : Nat
  streamResponses : Bool
  deriving DecidableEq, Repr

namespace Settings

open CommandLine (Command Invocation ComposeOverrides ServeOverrides)

/-- What layers give for each setting. -/
structure Given where
  host : Option String
  port : Option Nat
  gracefulShutdownSeconds : Option Nat
  level : Option String
  logJson : Option Bool
  maxLayoutDepth : Option Nat
  traceRegions : Option Bool
  streamBufferChunks : Option Nat
  streamResponses : Option Bool
  deriving DecidableEq, Repr

namespace Given

/-- The group of settings of the server. -/
def server : Node.Group := ⟨"server", "RawServerSettings"⟩

/-- The group of settings of the log. -/
def logging : Node.Group := ⟨"logging", "RawLoggingSettings"⟩

/-- The group of settings of composing. -/
def compose : Node.Group := ⟨"compose", "RawComposeSettings"⟩

/-- The settings in a table of layers. -/
def ofNode (n : Node) : Except Mismatch Given := do
  let host ← n.setting server 0 "host" Node.asText
  let port ← n.setting server 1 "port" Node.asPort
  let gracefulShutdownSeconds ← n.setting server 2 "graceful_shutdown_seconds" Node.asWord
  let level ← n.setting logging 0 "level" Node.asText
  let logJson ← n.setting logging 1 "json" Node.asBool
  let maxLayoutDepth ← n.setting compose 0 "max_layout_depth" Node.asWord
  let traceRegions ← n.setting compose 1 "trace_regions" Node.asBool
  let streamBufferChunks ← n.setting compose 2 "stream_buffer_chunks" Node.asWord
  let streamResponses ← n.setting compose 3 "stream_responses" Node.asBool
  return {
    host, port, gracefulShutdownSeconds, level, logJson, maxLayoutDepth, traceRegions, streamBufferChunks,
    streamResponses }

/-- The settings with overrides of composing over them. -/
def overrideCompose (g : Given) (o : ComposeOverrides) : Given :=
  { g with
    maxLayoutDepth := o.maxLayoutDepth.or g.maxLayoutDepth
    traceRegions := o.traceRegions.or g.traceRegions }

/-- The settings with all overrides of the serving command over them. -/
def overrideServe (g : Given) (o : ServeOverrides) : Given :=
  { g.overrideCompose o.compose with
    host := o.host.or g.host
    port := o.port.or g.port
    gracefulShutdownSeconds := o.gracefulShutdownSeconds.or g.gracefulShutdownSeconds
    level := o.logLevel.or g.level
    logJson := o.logJson.or g.logJson
    streamResponses := o.streamResponses.or g.streamResponses }

/-- The settings with the options of a command over them. -/
def override (g : Given) : Option Command → Given
  | none => g
  | some (.serve o) => g.overrideServe o
  | some (.render o _) => g.overrideCompose o

theorem overrideCompose_none (g : Given) : g.overrideCompose .none = g := by
  simp [overrideCompose, ComposeOverrides.none]

theorem overrideServe_none (g : Given) : g.overrideServe .none = g := by
  simp [overrideServe, ServeOverrides.none, overrideCompose_none]

end Given

/-! ## Checking -/

/-- A value that wins and cannot be used. -/
inductive Offence where
  | zeroPort
  /-- The host and the port make up no address. -/
  | badAddress (text : String)
  | zeroGracefulShutdown
  | badLevel
  /-- The machine does not count that far. -/
  | hugeLayoutDepth
  | zeroLayoutDepth
  /-- The machine does not count that far. -/
  | hugeBufferChunks
  | zeroBufferChunks
  deriving DecidableEq, Repr

namespace Offence

/-- The setting that is to blame. -/
def key : Offence → String
  | zeroPort => "server.port"
  | badAddress _ => "server.addr"
  | zeroGracefulShutdown => "server.graceful_shutdown_seconds"
  | badLevel => "logging.level"
  | hugeLayoutDepth | zeroLayoutDepth => "compose.max_layout_depth"
  | hugeBufferChunks | zeroBufferChunks => "compose.stream_buffer_chunks"

/-- What is wrong with it. -/
def reason : Offence → String
  | zeroPort => "port must be greater than zero"
  | badAddress text => "invalid address `" ++ text ++ "`: invalid socket address syntax"
  | badLevel => "failed to parse: " ++ Threshold.refusal
  | hugeLayoutDepth | hugeBufferChunks => "value exceeds supported range for usize"
  | zeroGracefulShutdown | zeroLayoutDepth | zeroBufferChunks => "must be greater than zero"

end Offence

/-- The host where no layer gives one: this machine alone. -/
def defaultHost : String := "127.0.0.1"

/-- The port where no layer gives one. -/
def defaultPort : Nat := 3000

/-- How long open requests are waited for where no layer says it. -/
def defaultGracefulShutdownSeconds : Nat := 30

/-- The threshold of the log where no layer gives a level. -/
def defaultThreshold : Threshold := .upTo .info

/-- A number that may not be zero. -/
def positive (n : Nat) (offence : Offence) : Except Offence Nat := if n = 0 then .error offence else .ok n

/-- The machine counts up to the number before this one. -/
def countBound : Nat := Text.bound64

/-- A number that something is counted with. -/
def countOf (n : Nat) (huge zero : Offence) : Except Offence Nat :=
  if countBound ≤ n then .error huge else positive n zero

/-- The address that a host and a port make up. -/
def addressOf (host : String) (port : Nat) : Except Offence Address :=
  match Host.read? host with
  | some h => .ok ⟨h, port⟩
  | none => .error (.badAddress (host ++ ":" ++ toString port))

/-- The threshold that a level names. -/
def thresholdOf (level : Option String) : Except Offence Threshold :=
  match level with
  | none => .ok defaultThreshold
  | some s =>
    match Threshold.parse? s with
    | some t => .ok t
    | none => .error .badLevel

/-- The settings that layers give, with defaults for the others. -/
def ofGiven (g : Given) : Except Offence Settings := do
  let port ← positive (g.port.getD defaultPort) .zeroPort
  let address ← addressOf (g.host.getD defaultHost) port
  let gracefulShutdownSeconds ←
    positive (g.gracefulShutdownSeconds.getD defaultGracefulShutdownSeconds) .zeroGracefulShutdown
  let threshold ← thresholdOf g.level
  let maxLayoutDepth ←
    countOf (g.maxLayoutDepth.getD Options.standard.maxLayoutDepth) .hugeLayoutDepth .zeroLayoutDepth
  let streamBufferChunks ←
    countOf (g.streamBufferChunks.getD Options.standard.streamBufferChunks) .hugeBufferChunks .zeroBufferChunks
  return {
    address, gracefulShutdownSeconds, threshold, maxLayoutDepth, streamBufferChunks
    logJson := g.logJson.getD false
    traceRegions := g.traceRegions.getD false
    streamResponses := g.streamResponses.getD false }

/-- The options of composing. -/
def options (s : Settings) : Options := ⟨s.maxLayoutDepth, s.traceRegions, s.streamBufferChunks⟩

/-! ## Loading -/

/-- Why there are no settings. -/
inductive LoadFault where
  | file (fault : FileFault)
  | mismatch (found : Mismatch)
  | invalid (offence : Offence)
  deriving DecidableEq, Repr

/-- The wording of a fault. What a file of the wrong form holds is not said. -/
def LoadFault.message : LoadFault → String
  | file fault =>
    "failed to build configuration: " ++
      (match fault with
        | .missing path => "configuration file \"" ++ path ++ "\" not found"
        | .unknownForm path => "configuration file \"" ++ path ++ "\" is not of a supported file format"
        | .unreadable path => path)
  | mismatch m => "failed to build configuration: " ++ m.message
  | invalid o => "invalid configuration for `" ++ o.key ++ "`: " ++ o.reason

/-- The file at the bottom of all layers, which may be missing. -/
def defaultFile : String := "config/default"

/-- The file of the working directory, which may be missing too. -/
def localFile : String := "trellis"

/-- All layers below the command line, the first one at the bottom. -/
def layers (files : Files) (environment : List (String × String)) (configFile : Option String) :
    Except FileFault (List Layer) := do
  let lowest ← Layer.ofFileIfAny files defaultFile
  let next ← Layer.ofFileIfAny files localFile
  let named ← configFile.toList.mapM (Layer.ofFile files)
  return [lowest, next] ++ named ++ [Layer.ofEnvironment environment]

/-- The settings that files, the environment and the command line give together. -/
def load (invocation : Invocation) (files : Files) (environment : List (String × String)) :
    Except LoadFault Settings := do
  let layers ← (layers files environment invocation.configFile).mapError .file
  let given ← (Given.ofNode (stack layers)).mapError .mismatch
  (ofGiven (given.override invocation.command)).mapError .invalid

end Settings
end Folio
