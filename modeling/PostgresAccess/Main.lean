import PostgresAccess.CommandLine.Program
import PostgresAccess.Program.Launch

/-!
# The command line

`main` reads the arguments, the variables and the file of the attributes, and writes what the
program says.  Helpers are run by the library's own shell, on a directory without files.
-/

namespace PostgresAccess.CommandLine

/-- The system's number of an error. -/
def errorNumber? : IO.Error → Option UInt32
  | .noFileOrDirectory _ n _ | .permissionDenied _ n _ | .inappropriateType _ n _
  | .invalidArgument _ n _ | .resourceExhausted _ n _ | .noSuchThing _ n _ | .otherError n _ =>
    some n
  | _ => none

/-- Why the system did not open a file. -/
def faultOf (error : IO.Error) : FileFault :=
  ((errorNumber? error).bind fun n => FileFault.ofNumber? n.toNat).getD .noSuchFile

/-- The bytes of a file. -/
def readBytes (path : String) : BaseIO (Except FileFault (List UInt8)) := do
  match ← (IO.FS.readBinFile path).toBaseIO with
  | .ok bytes => return .ok bytes.toList
  | .error error => return .error (faultOf error)

/-- The variables that are set. -/
def currentEnvironment : BaseIO Environment := do
  let pairs ← Variable.all.filterMapM fun v => do
    return (← IO.getEnv v.name).map fun text => (v.name, text)
  return .ofPairs pairs

/-- The file of the attributes in a home directory. -/
def standardFileIn (home : String) : String := home ++ "/.config/pgprovider/config.toml"

/-- What the program finds: the file that the arguments name is read, and no other. -/
def currentWorld (arguments : List String) : BaseIO World := do
  let environment ← currentEnvironment
  let world : World :=
    { environment
      readFile := fun _ => .error .noSuchFile
      standardFile := standardFileIn ((← IO.getEnv "HOME").getD "")
      allocator := .ofWord (← IO.monoNanosNow).toUInt64
      runner := (Program.system .empty environment).runner }
  match read arguments with
  | .request request =>
    let content ← readBytes (Path.normalise (world.fileOf request))
    return { world with readFile := fun _ => content }
  | _ => return world

end PostgresAccess.CommandLine

open PostgresAccess in
/-- Runs the program on the arguments. -/
def main (arguments : List String) : IO UInt32 := do
  match CommandLine.run (← CommandLine.currentWorld arguments) arguments with
  | .ok outcome =>
    IO.print outcome.stdout
    IO.eprint outcome.stderr
    return outcome.exitCode.toUInt32
  | .error failure =>
    IO.eprintln failure.message
    return 1
