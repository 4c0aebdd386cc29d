import SimApprove.Program

/-!
# The command line

Hands the process's arguments, environment and settings file to `Program.run`
and shows its report. No tool is within reach here, so a run with the simulator
backend ends with the report that the tool cannot be started.
-/

namespace SimApprove.Main

def variableNames : List String :=
  ["HOME", "IDBCTL_UDID", "IDBCTL_BACKEND", "IDBCTL_XCRUN", "IDBCTL_TIMEOUT_SECS",
    "IDBCTL_LOG_LEVEL", "CLICOLOR_FORCE", "NO_COLOR"]

def bytesOf (text : String) : List UInt8 := text.toUTF8.toList

def readEnvironment : IO Environment := do
  let mut bindings := []
  for name in variableNames do
    if let some value ← IO.getEnv name then
      bindings := bindings ++ [(name, bytesOf value)]
  return { bindings, accountHome := none }

/-- The settings file, if there is one, as the only thing in the file tree. -/
def readFiles (env : Environment) : IO FileTree := do
  let some home := env.home?.bind Text.Utf8.decode? | return ⟨"", []⟩
  let path := Environment.configPath home
  try
    let bytes ← IO.FS.readBinFile path
    return ⟨"", [(Location.ofPath path, .document bytes.toList)]⟩
  catch
    | .inappropriateType _ 21 _ => return ⟨"", [(Location.ofPath path, .directory)]⟩
    | _ => return ⟨"", []⟩

def noTools (_ : List Call) (_ : Call) : Reply := .hangs

def run (arguments : List String) : IO UInt32 := do
  let environment ← readEnvironment
  let files ← readFiles environment
  let world : World := { searchPath := [], respond := noTools, files }
  let (report, _) := Program.run ⟨arguments, environment, world⟩
  (← IO.getStdout).putStr report.output
  for event in report.log do
    (← IO.getStderr).putStrLn event.line
  (← IO.getStderr).putStr report.errors
  return report.exitCode.toUInt32

end SimApprove.Main

def main (arguments : List String) : IO UInt32 := SimApprove.Main.run arguments
