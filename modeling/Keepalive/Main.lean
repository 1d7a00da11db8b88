import Keepalive.Demo

/-!
# The command line

The walk of `Keepalive.Demo` over the working directory and the environment: its records go to the error stream, and its exit
code is the program's. A fault that is not reported shows its wording, if it has one, and the exit code is one.
-/

namespace Keepalive.Demo

/-- What a path leads to: nothing, octets, or something that is no file. -/
def lookAt (path : String) : IO (Option File) := do
  try
    return some (.content (← IO.FS.readBinFile path).toList)
  catch
    | .noFileOrDirectory .. => return none
    | _ => return some .directory

/-- The variables that hold settings. -/
def setVariables : IO (List (String × String)) :=
  Environment.settingNames.filterMapM fun (_, name) => do
    return (← IO.getEnv name).map fun value => (name, value)

/-- Shows a record. -/
def showRecord (record : Record) : IO Unit := IO.eprintln ("[" ++ record.level.name ++ "] - " ++ record.text)

open scoped Config.Depths

/-- The walk, shown. -/
def program : IO UInt32 := do
  let files := ((← lookAt Config.fileName).map (Files.only Config.fileName)).getD Files.empty
  let walk := run ⟨← setVariables, files⟩ Config.filePath
  walk.records.forM showRecord
  match walk.outcome with
  | .ok code => return UInt32.ofNat code
  | .error fault =>
    IO.eprintln (fault.message?.getD "")
    return 1

end Keepalive.Demo

/-- The program. -/
def main : IO UInt32 := Keepalive.Demo.program
