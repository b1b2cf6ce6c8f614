import StructEdit.Trace

/-!
# StructEdit.Main

The command line of key traces: reads the files that the arguments name and prints
the trace.
-/

namespace StructEdit

/-- What is found at a path. -/
def readFile (path : String) : IO File := do
  try
    return .bytes (← IO.FS.readBinFile path)
  catch
    | .inappropriateType .. => return .directory
    | _ => return .missing

/-- Where the user keeps configurations. -/
def configDirectory : IO String := do
  match ← IO.getEnv "XDG_CONFIG_HOME" with
  | some path => return path
  | none => return ((← IO.getEnv "HOME").getD "") ++ "/.config"

end StructEdit

open StructEdit in
/-- Prints the trace of the keys that the arguments give. -/
def main (args : List String) : IO UInt32 := do
  let named := (Trace.Arguments.parse? args).getD {}
  let paths := named.config.toList ++ named.script.toList
  let files ← paths.mapM fun path => return (path, ← readFile path)
  let userConfig ← readFile ((← configDirectory) ++ "/" ++ Config.defaultPath)
  let report := Trace.runCommandLine args (fun path => (files.lookup path).getD .missing) userConfig
  IO.print report.output
  return report.exitCode
