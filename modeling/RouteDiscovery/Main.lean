/-
# The program

Reads the environment and the configuration file, and prints what starting the node gives.
-/
import RouteDiscovery.CommandLine.Startup
import RouteDiscovery.Node.Document
import Std.Time.Format
import Std.Time.Zoned

namespace RouteDiscovery.CommandLine

/-- What is at a path. -/
def readFileState (path : String) : IO FileState := do
  try return FileState.ofBytes (← IO.FS.readBinFile path) catch _ => return .missing

/-- The variables of the environment that the node looks at. -/
def readEnvironment : IO Environment := do
  let names := "TERM" :: Override.all.map (·.name)
  let values ← names.mapM fun n => do return (← IO.getEnv n).map (n, ·)
  return values.filterMap id

/-- The time that stands in the log. -/
def readTime : IO String := do
  return (← Std.Time.PlainDateTime.now).format "uuuu-MM-dd HH:mm:ss.SSS"

def printLines (out : IO.FS.Stream) (lines : List String) : IO Unit :=
  lines.forM fun line => out.putStrLn line

end RouteDiscovery.CommandLine

open RouteDiscovery RouteDiscovery.CommandLine

def main (arguments : List String) : IO UInt32 := do
  let file ← match configPath? arguments with
    | some path => readFileState path
    | none => pure .missing
  let startup := start yamlReader (fun _ => file) (← readEnvironment) arguments
  unless startup.log.isEmpty do
    printLines (← IO.getStdout) (startup.logLines (← readTime))
  match startup.result with
  | .error exit =>
    printLines (← IO.getStdout) exit.output
    printLines (← IO.getStderr) exit.errors
    return exit.code.toUInt32
  | .ok _ =>
    printLines (← IO.getStderr) ["Error: no network is available"]
    return 1
