import TypedRoutes.CommandLine.Run
/-!
# The program

Reads the manifest that the arguments name, runs the command and writes what it gives.
-/
namespace TypedRoutes.CommandLine

/-- The names of files that a request reads. -/
def filesOf (args : List String) : List String :=
  match Request.ofArguments args with
  | .ok (.run _ (.check name)) => [name]
  | .ok (.run _ (.probe name _ _)) => [name]
  | _ => []

/-- The fault behind an error of the system. -/
def FileFault.ofError : IO.Error → FileFault
  | .noFileOrDirectory _ _ _ => missing
  | .inappropriateType none _ _ => directory
  | .inappropriateType (some _) _ _ => notDirectory
  | .invalidArgument (some _) _ _ => nameTooLong
  | .permissionDenied _ _ _ => other "Permission denied (os error 13)"
  | e => other (toString e)

def readFile (name : String) : IO (Except FileFault String) := do
  try
    let bytes ← IO.FS.readBinFile name
    match String.fromUTF8? bytes with
    | some text => return .ok text
    | none => return .error .notText
  catch e => return .error (.ofError e)

end TypedRoutes.CommandLine

open TypedRoutes.CommandLine in
def main (args : List String) : IO UInt32 := do
  let texts ← (filesOf args).mapM fun name => return (name, ← readFile name)
  let outcome := run (fun name => (texts.lookup name).getD (.error .missing)) args
  IO.print outcome.output
  IO.eprint outcome.errors
  return UInt32.ofNat outcome.exitCode
