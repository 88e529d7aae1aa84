import KernelStore.CommandLine.Execution

/-!
The program: runs a command on the files and the environment of the machine.
-/

namespace KernelStore.Program

def fileError : IO.Error → FileError
  | .noFileOrDirectory _ _ _ => .notFound
  | fault => .other (toString fault)

def readFile (path : String) : IO (Except FileError Bytes) := do
  try
    return .ok (← IO.FS.readBinFile path).data.toList
  catch fault => return .error (fileError fault)

/-- The variables that commands look at, as the environment has them. -/
def environment : IO (String → Option String) := do
  let names := ["TERM", Toggles.noCache, Toggles.recompile, Toggles.requiredPrecision]
  let values ← names.mapM fun name => do return (name, ← IO.getEnv name)
  return fun name => (values.lookup name).join

end KernelStore.Program

open KernelStore in
def main (arguments : List String) : IO UInt32 := do
  let around : CommandLine.Surroundings IO := ⟨Program.readFile, ← Program.environment⟩
  let report ← CommandLine.execute around arguments
  (← IO.getStdout).putStr report.output
  (← IO.getStderr).putStr report.errors
  return UInt32.ofNat report.code
