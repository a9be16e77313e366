import PostgresAccess.Failure
import PostgresAccess.Numeral.Nearest
import PostgresAccess.Text.Encoding

/-!
# Running a helper

A run of a started helper is a sequence of events: pieces of output, the ends of the two streams,
the exit of the program, the end of the time that it may take, and requests to cancel the run.
`Execution.step` takes one event after another.  A run is complete when both streams have ended and
the program has exited.  If it is to stop before, the program is killed and the run waits for its
exit; a request to cancel that comes while it waits ends the run at once.

The outcome depends on the bytes of each stream and on the exit code alone, not on how the events
of a complete run were mixed.  A run of which no event brings the end has no outcome.
-/

namespace PostgresAccess

open Numeral (Binary64)
open Text (Charset)

/-- A stream on which a program writes. -/
inductive Channel where
  | stdout
  | stderr
deriving DecidableEq, Repr

/-- Why a run stops before it is complete. -/
inductive Stop where
  /-- The time is over. -/
  | expired
  /-- The run was cancelled. -/
  | cancelled
deriving DecidableEq, Repr

/-- Something that happens to a run. -/
inductive HelperEvent where
  | wrote (channel : Channel) (bytes : List UInt8)
  | closed (channel : Channel)
  /-- The program has exited; a negative code is that of a signal. -/
  | exited (code : Int)
  /-- The run is to stop. -/
  | stop (reason : Stop)
deriving DecidableEq, Repr

/-- How far a run is. -/
inductive Phase where
  /-- The output is being collected. -/
  | collecting
  /-- The program was killed and its exit is awaited. -/
  | reaping (reason : Stop)
  | complete
  | stopped (reason : Stop)
deriving DecidableEq, Repr

/-- A run of a started helper. -/
structure Execution where
  stdout : List UInt8
  stderr : List UInt8
  stdoutClosed : Bool
  stderrClosed : Bool
  exitCode : Option Int
  phase : Phase
deriving DecidableEq, Repr

namespace Execution

/-- A run of a helper that has just started. -/
def start : Execution := ⟨[], [], false, false, none, .collecting⟩

/-- The run with more output. -/
def append (x : Execution) (bytes : List UInt8) : Channel → Execution
  | .stdout => { x with stdout := x.stdout ++ bytes }
  | .stderr => { x with stderr := x.stderr ++ bytes }

/-- The run with a stream ended. -/
def close (x : Execution) : Channel → Execution
  | .stdout => { x with stdoutClosed := true }
  | .stderr => { x with stderrClosed := true }

/-- The run, complete if nothing is awaited any more. -/
def settle (x : Execution) : Execution :=
  if x.stdoutClosed && x.stderrClosed && x.exitCode.isSome then { x with phase := .complete }
  else x

/-- The run after it was to stop: a program that has not exited is killed. -/
def interrupt (x : Execution) (reason : Stop) : Execution :=
  { x with phase := if x.exitCode.isSome then .stopped reason else .reaping reason }

/-- The run after an event. -/
def step (x : Execution) (event : HelperEvent) : Execution :=
  match x.phase, event with
  | .collecting, .wrote channel bytes => x.append bytes channel
  | .collecting, .closed channel => (x.close channel).settle
  | .collecting, .exited code => { x with exitCode := some code }.settle
  | .collecting, .stop reason => x.interrupt reason
  | .reaping reason, .exited code => { x with exitCode := some code, phase := .stopped reason }
  | .reaping _, .stop .cancelled => { x with phase := .stopped .cancelled }
  | _, _ => x

/-- The run after some events. -/
def run (events : List HelperEvent) : Execution := events.foldl step start

/-- The failure of a run. -/
def failure (x : Execution) (charset : Charset) (call : HelperCall) (fault : HelperFault) :
    Failure :=
  .helper {
    command := call.command
    arguments := call.arguments
    stdout := charset.decodeLossy x.stdout
    stderr := charset.decodeLossy x.stderr
    exitCode := x.exitCode
    fault }

/-- The failure of a run whose output is not text, which does not show the output. -/
def undecodableFailure (x : Execution) (charset : Charset) (call : HelperCall) : Failure :=
  { x with stdout := [] }.failure charset call (.undecodable charset.name)

/-- What comes of a complete run: the output, if the program exited with zero. -/
def completed (x : Execution) (charset : Charset) (call : HelperCall) :
    Except Failure String :=
  match x.exitCode with
  | some 0 =>
    match charset.decode? x.stdout with
    | some text => .ok text
    | none => .error (x.undecodableFailure charset call)
  | code => .error (x.failure charset call (.exited (code.getD 0)))

/-- What comes of a run that has come to its end. -/
def outcome? (x : Execution) (charset : Charset) (call : HelperCall) :
    Option (Except Failure String) :=
  match x.phase with
  | .complete => some (x.completed charset call)
  | .stopped .cancelled => some (.error .cancelled)
  | .stopped .expired =>
    some (.error (x.failure charset call (.timedOut call.timeout.shown)))
  | .collecting | .reaping _ => none

end Execution

/-! ## Programs in time -/

/-- A piece of output at a time, which is counted in nanoseconds. -/
structure Write where
  time : Nat
  channel : Channel
  bytes : List UInt8
deriving DecidableEq, Repr

/-- What a program does if nothing stops it. -/
structure Behaviour where
  /-- The number of its process. -/
  process : Nat
  /-- What it writes, in order of time. -/
  writes : List Write
  /-- When it exits and how, if it ever does. -/
  exit : Option (Nat × Int)
  /-- When its streams end, if they ever do: other programs can keep them open after the exit. -/
  closed : Option Nat
deriving DecidableEq, Repr

/-- The exit code of a program that was killed. -/
def killedCode : Int := -9

namespace Behaviour

/-- When a run is to stop and why: after the time that it may take or when it is cancelled,
whichever comes first. -/
def stopTime (timeout cancelAfter : Value) : Option (Nat × Stop) :=
  let moment (reason : Stop) (seconds : Value) : Option (Nat × Stop) :=
    seconds.nanoseconds?.map fun n => (n.toNat, reason)
  match moment .expired timeout, moment .cancelled cancelAfter with
  | some first, some second => if first.1 ≤ second.1 then some first else some second
  | some first, none => some first
  | none, second => second

/-- Whether a time comes before that at which a run is to stop. -/
def isBefore (stop : Option (Nat × Stop)) (time : Nat) : Bool := stop.all fun s => time < s.1

/-- The events of what comes before a run is to stop: the output, the exit, and the ends of the
streams. -/
def natural (b : Behaviour) (stop : Option (Nat × Stop)) : List HelperEvent :=
  ((b.writes.filter fun w => isBefore stop w.time).map fun w => .wrote w.channel w.bytes)
    ++ ((b.exit.filter fun e => isBefore stop e.1).map fun e => .exited e.2).toList
    ++ if b.closed.any (isBefore stop) then [.closed .stdout, .closed .stderr] else []

/-- The events of a run that may be stopped: those before the stop, and those of a program that is
killed. -/
def events (b : Behaviour) (stop : Option (Nat × Stop)) : List HelperEvent :=
  b.natural stop ++
    match stop with
    | none => []
    | some (_, reason) => [.stop reason, .exited killedCode]

end Behaviour

/-- Why a program is not started. -/
inductive StartFault where
  | file (fault : FileFault)
  /-- The command or an argument holds the character that ends it. -/
  | embeddedNull
deriving DecidableEq, Repr

/-- The failure of a start. -/
def StartFault.failure (fault : StartFault) (call : HelperCall) : Failure :=
  match fault with
  | .embeddedNull => .embeddedNull
  | .file fault =>
    .helper ⟨call.command, call.arguments, "", "", none, .notStarted call.command fault⟩

/-- What a system does with the calls that can be handed to it: it starts a program or gives a
fault. -/
abbrev System := HelperCall → Except FileFault Behaviour

/-- The command or an argument holds the character that ends a text for the system. -/
def HelperCall.HasNull (call : HelperCall) : Prop :=
  ∃ t ∈ call.command :: call.arguments, '\x00' ∈ t.toList

instance (call : HelperCall) : Decidable call.HasNull :=
  inferInstanceAs (Decidable (∃ t ∈ call.command :: call.arguments, '\x00' ∈ t.toList))

/-- What becomes of the start of a call. -/
def HelperCall.started (call : HelperCall) (system : System) : Except StartFault Behaviour :=
  if call.HasNull then .error .embeddedNull else (system call).mapError .file

/-- A call by any values: the command and the arguments have to be texts without the character that
ends a text. -/
def HelperCall.ofValues (command arguments timeout : Value) : Except Failure HelperCall := do
  let arguments ← arguments.members.mapError .value
  match (command :: arguments).find? isFaulty with
  | some (.text _) => .error .embeddedNull
  | some v => .error (.value (.notName v.kindName))
  | none => return ⟨command.shown, arguments.map Value.shown, timeout⟩
where
  /-- A value that is no text or that holds the character that ends one. -/
  isFaulty (v : Value) : Bool := v.text?.all fun s => s.toList.contains '\x00'

/-- Whether a number of seconds is a whole number beyond all floating-point numbers. -/
def isImmeasurable : Value → Bool
  | .int n => 0 < n && Binary64.infinityBits ≤ Binary64.nearestBits n.natAbs 1
  | _ => false

/-- Refuses a time that a program may take unless it can be told whether it is over. -/
def checkTimeout : Value → Except Failure Unit
  | .null => .ok ()
  | timeout => do
    let _ ← (timeout.related .atMost (.int 0)).mapError .value
    if isImmeasurable timeout then .error .immeasurable

/-- What comes of a call whose program was started, by the events of its run; nothing as long as
they do not bring the run to its end. -/
def HelperCall.awaited? (call : HelperCall) (charset : Charset) (events : List HelperEvent) :
    Option (Except Failure String) :=
  match checkTimeout call.timeout with
  | .error failure => some (.error failure)
  | .ok () => (Execution.run events).outcome? charset call

/-- What becomes of a call: the program does not start, or it runs and may be stopped.  Nothing
comes of a run that is endless. -/
def HelperCall.outcome? (call : HelperCall) (charset : Charset) (cancelAfter : Value)
    (started : Except StartFault Behaviour) : Option (Except Failure String) :=
  match started with
  | .error fault => some (.error (fault.failure call))
  | .ok behaviour =>
    call.awaited? charset (behaviour.events (Behaviour.stopTime call.timeout cancelAfter))

end PostgresAccess
