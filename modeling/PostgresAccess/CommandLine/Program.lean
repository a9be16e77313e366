import PostgresAccess.Assembly
import PostgresAccess.CommandLine.Arguments
import PostgresAccess.Json.Printer
import PostgresAccess.Settings.Source

/-!
# The command-line program

The program loads the settings of a file, assembles their descriptor and prints it with the password
masked.  Notices go to the error output, all of them or only the warnings; an expected failure is
reported there too and makes the program exit with one.  A failure of any other kind is not caught.
-/

namespace PostgresAccess.CommandLine

/-- What a run of the program leaves behind. -/
structure Outcome where
  exitCode : Nat
  stdout : String
  stderr : String
deriving DecidableEq, Repr

/-- What the program finds when it starts. -/
structure World where
  environment : Environment
  readFile : FileReader
  /-- The file of the attributes unless an argument names one. -/
  standardFile : String
  allocator : Tunnel.Allocator
  runner : Runner

/-- The file of the attributes. -/
def World.fileOf (world : World) (request : Request) : String :=
  request.config.getD world.standardFile

/-- The settings that a request is about. -/
def World.load (world : World) (request : Request) : Except Failure Settings :=
  Settings.load world.environment world.readFile (world.fileOf request)

/-- The assembler of a request. -/
def World.assembler (world : World) (request : Request) : Assembler where
  allocator := world.allocator
  timeout := request.commandTimeout.elim .null .real
  applicationName := .text defaultApplicationName

/-- Whether a notice is written. -/
def isWritten (verbose : Bool) (notice : Notice) : Bool := verbose || notice.level == .warning

/-- The lines of the notices that are written. -/
def noticeLines (verbose : Bool) (notices : List Notice) : String :=
  String.join ((notices.filter (isWritten verbose)).map fun notice => notice.line ++ "\n")

/-- The outcome of a failure, unless it is not expected. -/
def failed (notices : String) (failure : Failure) : Except Failure Outcome :=
  if failure.kind.isExpected then .ok ⟨1, "", notices ++ "error: " ++ failure.message ++ "\n"⟩
  else .error failure

/-- What is printed of a descriptor. -/
def printed (d : Descriptor) : Except Failure String := do
  let table := Value.table (← d.redacted.mapError .ofTextFault)
  if table.hasOversized then .error (.number .oversized) else .ok (Json.indented table ++ "\n")

/-- Does what a request asks for. -/
def perform (world : World) (request : Request) : Except Failure Outcome :=
  match world.load request with
  | .error failure => failed "" failure
  | .ok settings =>
    let report := assemble (world.assembler request) world.runner settings
    let notices := noticeLines request.verbose report.notices
    match report.outcome with
    | .error failure => failed notices failure
    | .ok d => (printed d).map fun text => ⟨0, text, notices⟩

/-- Runs the program. -/
def run (world : World) (arguments : List String) : Except Failure Outcome :=
  match read arguments with
  | .help => .ok ⟨0, helpText, ""⟩
  | .fault fault => .ok ⟨2, "", fault.report⟩
  | .request request => perform world request

end PostgresAccess.CommandLine
