import Folio.Launch
/-!
# The program

Gathers what a launch meets (`Launch`), lets `Launch.run` decide, and writes what comes of it: the
output to standard output and the log to standard error. This program opens no sockets, so the
serving command ends with the refusal of the address.
-/

namespace Folio

/-- The variables of the environment, as the system lists them: each with an equals sign between
its name and its value, and a zero byte after it. -/
def readEnvironment : IO (List (String × String)) := do
  let bytes ← try IO.FS.readBinFile "/proc/self/environ" catch _ => pure .empty
  let equals : UInt8 := 0x3d
  return (bytes.toList.splitOn 0).filterMap fun entry =>
    match Text.text? (entry.takeWhile (· ≠ equals)), entry.dropWhile (· ≠ equals) with
    | some name, _ :: value => (Text.text? value).map fun value => (name, value)
    | _, _ => none

/-- The text of a file, if it is there. -/
def readText (path : String) : IO (Option (String × String)) := do
  try
    let bytes ← IO.FS.readBinFile path
    return some (path, Text.lossy bytes.toList)
  catch _ => return none

/-- The files that settings are looked for in, as far as they are there. -/
def readFiles (names : List String) : IO Settings.Files := do
  let paths := names.flatMap fun name => Settings.tidy name :: (Settings.withEndings name).map (·.1)
  return (← paths.mapM readText).filterMap id

/-- The launch of this process with some arguments. -/
def readLaunch (arguments : List String) : IO Launch := do
  let environment ← readEnvironment
  let launch : Launch := ⟨arguments, environment, [], fun _ => some "Operation not supported (os error 95)"⟩
  let named := match launch.invocation with
    | .ok i => i.configFile.toList
    | .error _ => []
  return { launch with files := ← readFiles ([Settings.defaultFile, Settings.localFile] ++ named) }

end Folio

/-- Runs the program. -/
def main (arguments : List String) : IO UInt32 := do
  let outcome := (← Folio.readLaunch arguments).run
  let output ← IO.getStdout
  output.write ⟨outcome.output.bytes.toArray⟩
  output.flush
  for line in outcome.lines do
    IO.eprintln line.text
  return UInt32.ofNat outcome.code
