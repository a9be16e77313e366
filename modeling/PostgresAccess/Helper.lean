import PostgresAccess.File
import PostgresAccess.Numeral.Binary64
import PostgresAccess.Numeral.Shortest
import PostgresAccess.Value.Literal

/-!
# Credential helpers

A helper is a program that prints a secret.  `HelperCall` says which program is to be run and for
how long; `HelperFailure` says why that failed, with what the program wrote.
-/

namespace PostgresAccess

open Numeral (Binary64)

/-- The whole nanoseconds in a number of seconds, rounded down; nothing for an endless time, and
zero for what is no number. -/
def Numeral.Binary64.nanoseconds? (x : Binary64) : Option Int :=
  if x.isNaN then some 0
  else if x.isFinite then
    let (numerator, denominator) := x.ratio
    let n : Int := (numerator * 1000000000 / denominator : Nat)
    some (if x.isNegative then -n else n)
  else if x.isNegative then some (-1)
  else none

/-- The whole nanoseconds in the seconds that a value counts; nothing for an endless time and for a
value that is no number. -/
def Value.nanoseconds? : Value → Option Int
  | .bool b => some (if b then 1000000000 else 0)
  | .int n => some (n * 1000000000)
  | .real x => x.nanoseconds?
  | _ => none

/-- A program to run, with its arguments and the seconds that it may take; without them
it takes the time it needs. -/
structure HelperCall where
  command : String
  arguments : List String
  timeout : Value

/-- Why a helper gave no secret. -/
inductive HelperFault where
  /-- The program did not start. -/
  | notStarted (program : String) (fault : FileFault)
  /-- The program did not finish in time, which is given by its text. -/
  | timedOut (limit : String)
  /-- The program did not exit with zero; a negative code is that of a signal. -/
  | exited (code : Int)
  /-- The output is not text in the named encoding. -/
  | undecodable (encoding : String)
deriving DecidableEq, Repr

/-- The words for a fault. -/
def HelperFault.message : HelperFault → String
  | .notStarted program fault => fault.message program
  | .timedOut limit => "timed out after " ++ limit ++ " second(s)"
  | .exited code => "exit status " ++ toString code
  | .undecodable encoding => "output is not valid " ++ encoding

/-- A failed run of a helper: the command, what is known of its output, and the reason. -/
structure HelperFailure where
  command : String
  arguments : List String
  stdout : String
  stderr : String
  /-- The exit code, if the program has finished. -/
  exitCode : Option Int
  fault : HelperFault
deriving DecidableEq, Repr

/-- The words for a helper that failed: the command, its output and the reason. -/
def helperWords (command arguments stdout stderr reason : String) : String :=
  "failed to run " ++ command ++ " " ++ arguments ++ " stdout " ++ stdout ++ " stderr " ++ stderr
    ++ ": " ++ reason

/-- The words for a failed run. -/
def HelperFailure.message (f : HelperFailure) : String :=
  helperWords f.command (textListLiteral f.arguments) f.stdout f.stderr f.fault.message

end PostgresAccess
