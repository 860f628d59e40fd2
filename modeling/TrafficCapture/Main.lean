import TrafficCapture.Config.CommandLine
import TrafficCapture.Service

/-! The program. It reads its configuration, and serves one connection to the control interface on
standard input and output. -/

namespace TrafficCapture.Program

/-- How the program is called. -/
def usage : String :=
  "Usage: harcap [OPTIONS]\n\nOptions:\n" ++
    String.join (Config.Key.all.map fun k =>
      "      --" ++ k.argument ++ (if k == .disableCapture then "" else " <VALUE>") ++
        "  [env: " ++ k.variableName ++ "]\n") ++
    "  -h, --help\n  -V, --version"

/-- The variables of the environment that belong to the configuration. -/
def readEnvironment : IO (List (String × String)) := do
  let mut found := []
  for k in Config.Key.all do
    if let some value ← IO.getEnv k.variableName then
      found := (k.variableName, value) :: found
  return found

/-- Serves what stands on the input as one connection, and writes what the client receives. -/
def converse (service : Service) (input output : IO.FS.Stream) : IO Unit := do
  let mut script : List Net.Event := []
  repeat
    let bytes ← input.read 8192
    if bytes.isEmpty then break
    script := .arrival bytes.toList :: script
  let peer : Net.Peer := { script := (Net.Event.delay 1 :: script).reverse }
  let (index, service) := service.converse peer 1
  output.write (ByteArray.mk (service.peer index).received.toArray)
  output.flush

/-- Runs the program and returns its exit code. -/
def run (arguments : List String) : IO UInt32 := do
  match Config.ofCommandLine arguments (← readEnvironment) with
  | .error .helpWanted =>
    IO.println usage
    return 0
  | .error .versionWanted =>
    IO.println "harcap 0.1.0"
    return 0
  | .error fault =>
    IO.eprintln ("error: " ++ fault.message)
    return 2
  | .ok config =>
    match Service.start config none {} with
    | .error fault =>
      IO.eprintln ("Error: " ++ fault.message)
      return 1
    | .ok service =>
      converse service (← IO.getStdin) (← IO.getStdout)
      return 0

end TrafficCapture.Program

def main (arguments : List String) : IO UInt32 := TrafficCapture.Program.run arguments
