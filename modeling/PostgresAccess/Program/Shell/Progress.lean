import PostgresAccess.Program.Shell.Signal
import PostgresAccess.Program.Shell.Stream

/-!
# Progress of a shell

A command of a script takes the state of the shell to another one and does something, which is a
run.  The shell goes on with the next command unless the flow of control says otherwise.
-/

namespace PostgresAccess.Program.Shell

/-- How a shell goes on after a command. -/
inductive Flow where
  | next
  /-- The shell has ended, as its run has. -/
  | ended
  /-- The function is left. -/
  | returned
  /-- Some loops are left. -/
  | broken (loops : Nat)
  /-- Some loops are left but the last one, which goes on. -/
  | continued (loops : Nat)
deriving DecidableEq, Repr

/-- What a command has done. -/
structure Progress where
  state : State
  run : Run
  flow : Flow

/-- How a command is evaluated: what it does in a state, and whether its failure is tested. -/
abbrev Evaluator := Bool → State → Command → Progress

namespace Progress

/-- Two progresses one after the other. -/
def andThen (first : Progress) (second : State → Progress) : Progress :=
  match first.flow with
  | .next =>
    let next := second first.state
    { next with run := first.run.andThen next.run }
  | _ => first

/-- A command that does nothing but set the exit code. -/
def quiet (state : State) (status : Nat) : Progress :=
  ⟨{ state with status }, .silent status, .next⟩

end Progress

/-- What a shell adds to the run of a program that a signal has ended. -/
def signalNotice (signal : Nat) : Run :=
  match signalWords signal with
  | some words => .complaining words (128 + signal)
  | none => .silent (128 + signal)

/-- The state after a run that lets the shell go on. -/
def proceed (state : State) (run : Run) : Progress :=
  match run.ending with
  | .exited code =>
    ⟨{ state with status := code % 256, clock := state.clock + run.duration }, run, .next⟩
  | .signalled n =>
    ⟨{ state with status := 128 + n, clock := state.clock + run.duration },
      run.andThen (signalNotice n), .next⟩
  | .endless | .flooding _ => ⟨state, run, .ended⟩

/-- The end of the shell. -/
def finish (state : State) (ending : Ending) : Progress := ⟨state, .ofEnding ending, .ended⟩

/-- A complaint of the shell. -/
def State.complaint (state : State) (text : String) (code : Nat) : Run :=
  .complaining (state.label ++ ": " ++ text) code

/-- A complaint with which the shell ends. -/
def State.giveUp (state : State) (text : String) : Progress :=
  ⟨state, state.complaint text 2, .ended⟩

/-- The commands of some lines one after the other. -/
def runLines (evaluate : Evaluator) : List Command → Option LineFault → State → Progress
  | [], none, state => .quiet state state.status
  | [], some fault, state => { state with line := fault.line }.giveUp fault.fault.message
  | command :: rest, fault, state =>
    (evaluate false state command).andThen (runLines evaluate rest fault)

/-- The commands of a text. -/
def runText (evaluate : Evaluator) (text : String) (state : State) : Progress :=
  let script := readScript text
  runLines evaluate script.lines script.fault state

/-- The exit code of a shell, unless a signal has ended it or it does not end. -/
def Progress.exitCode? (progress : Progress) : Option Nat :=
  match progress.flow, progress.run.ending with
  | .ended, .exited code => some code
  | .ended, _ => none
  | _, _ => some progress.state.status

/-- The end of a shell: what its trap for the end does comes last. -/
def Progress.close (evaluate : Evaluator) (progress : Progress) : Progress :=
  match progress.exitCode? with
  | none => progress
  | some code =>
    match progress.state.trap? 0 with
    | none => { progress with run := { progress.run with ending := .exited code } }
    | some action =>
      let state := { progress.state with traps := [], status := code }
      let last := runText evaluate action state
      let run := progress.run.andThen last.run
      match last.flow with
      | .ended => ⟨last.state, run, .ended⟩
      | _ => ⟨last.state, { run with ending := .exited code }, .ended⟩

/-- The state in which a shell starts that was forked off another one. -/
def State.fork (state : State) : State := { state with traps := [], saved := [], jobs := some 0 }

/-- Runs a script for its output. -/
def capture (evaluate : Evaluator) (state : State) (script : String) : Capture :=
  let forked := { state.fork with standing := [] }
  let run := ((runText evaluate script forked).close evaluate).run
  let errors := run.writes.filter fun w => w.channel == .stderr
  let waited := (run.held.map (Nat.max run.duration)).getD run.duration
  let ending := if run.ends && run.held.isSome then .exited 0 else .endless
  let rest := Run.ofWrites errors waited ending
  match run.ending with
  | .exited code => ⟨run.written .stdout, rest, code % 256⟩
  | .signalled n => ⟨run.written .stdout, rest.andThen (signalNotice n), 128 + n⟩
  | .endless | .flooding _ => ⟨[], rest, 0⟩

/-- What a command does after words were expanded and when its streams are redirected. -/
def withRedirections (evaluate : Evaluator) (e : Expansion) (redirections : List Redirection)
    (body : State → Progress) : Progress :=
  let setup := redirections.foldl (Setup.add (capture evaluate)) ⟨e, .straight, none, none⟩
  let e := setup.expansion
  let state := { e.state with clock := e.state.clock + e.run.duration }
  if !e.run.ends then ⟨state, e.run, .ended⟩
  else
    match e.complaint, setup.complaint with
    | some text, _ => { state.giveUp text with run := e.run.andThen (state.complaint text 2) }
    | none, some text =>
      let progress := proceed state (state.complaint text 2)
      { progress with run := e.run.andThen progress.run }
    | none, none =>
      let inner := body { state with input := setup.input.getD state.input }
      let files := setup.wiring.save inner.run inner.state.files
      let input := if setup.input.isSome then state.input else inner.state.input
      ⟨{ inner.state with files, input }, e.run.andThen (setup.wiring.apply inner.run),
        inner.flow⟩

/-- What comes of a shell that was forked off, of which the files and the run stay.  A signal that
it sends to its own number ends the first shell. -/
def Progress.leave (evaluate : Evaluator) (progress : Progress) (state : State) : Progress :=
  let closed := progress.close evaluate
  match closed.flow, closed.run.ending with
  | .ended, .signalled n => ⟨state, { closed.run with ending := .signalled n }, .ended⟩
  | _, _ => proceed { state with files := closed.state.files } closed.run

/-- Two commands of which the second reads what the first writes. -/
def joinPipe (evaluate : Evaluator) (state : State) (first : Progress)
    (second : State → Progress) : Progress :=
  let writer := first.close evaluate
  let errors := writer.run.writes.filter fun w => w.channel == .stderr
  match writer.run.ending, writer.run.held with
  | .signalled n, _ => ⟨state, { writer.run with ending := .signalled n }, .ended⟩
  | .endless, _ | _, none => ⟨state, .ofWrites errors 0 .endless, .ended⟩
  | _, some held =>
    let waited := Nat.max writer.run.duration held
    let reading := { state.fork with input := writer.run.output, files := writer.state.files }
    let reader := second reading
    let reader := { reader with
      run := (Run.ofWrites errors waited (.exited 0)).andThen reader.run }
    let left := reader.leave evaluate state
    { left with state := { left.state with input := state.input } }

end PostgresAccess.Program.Shell
