import PostgresAccess.Helper.Execution
import PostgresAccess.Notice

/-!
# Runners of helpers

A runner answers a call of a helper with what came of it and with the notices that were given.  One
is given when the call is made, and another one when a program that was to stop has exited.

`System.runner` is the runner that starts programs.  A reply is there when a run has come to its
end; only a request to cancel ends a run that is endless.
-/

namespace PostgresAccess

open Text (Charset)

/-- What came of a call of a helper. -/
structure Reply where
  outcome : Except Failure String
  notices : List Notice

/-- What runs helpers. -/
abbrev Runner := HelperCall → Reply

/-- The notice about a program that was terminated.  It is given when the exit is known, and so it
is missing if the run did not wait for that. -/
def Execution.terminationNotices (x : Execution) (process : Nat) : List Notice :=
  match x.phase, x.exitCode with
  | .stopped _, some code => [.terminated process code]
  | _, _ => []

/-- The notice about a call. -/
def HelperCall.notice (call : HelperCall) : Notice :=
  .running call.command call.arguments.length

/-- The reply to a call whose program was started as a process, by the events of its run. -/
def HelperCall.reply (call : HelperCall) (charset : Charset) (process : Nat)
    (events : List HelperEvent) : Reply where
  outcome := (call.awaited? charset events).getD (.error .cancelled)
  notices := call.notice ::
    match checkTimeout call.timeout with
    | .error _ => []
    | .ok () => (Execution.run events).terminationNotices process

/-- The runner that starts programs and reads what they print as UTF-8. -/
def System.runner (system : System) : Runner := fun call =>
  match call.started system with
  | .error fault => ⟨.error (fault.failure call), [call.notice]⟩
  | .ok b => call.reply .utf8 b.process (b.events (Behaviour.stopTime call.timeout .null))

end PostgresAccess
