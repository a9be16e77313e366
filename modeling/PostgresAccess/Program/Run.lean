import PostgresAccess.File.Tree
import PostgresAccess.Helper.Execution

/-!
# Runs of programs

What a program does is a list of writes with their times, a duration and a way to end.  Runs of the
parts of a program are put together by `Run.andThen`, which shifts the later one in time.  Programs
in the background write on while others run, and can outlive the program that started them.
-/

namespace PostgresAccess.Program

/-! ## Sources -/

/-- What a program reads: some bytes, and after them those of a period over and over, unless the
period is empty. -/
structure Source where
  bytes : List UInt8
  period : List UInt8
  /-- The size of the regular file that is read, if one is. -/
  size : Option Nat
deriving DecidableEq, Repr

namespace Source

/-- A source of some bytes. -/
def ofBytes (bytes : List UInt8) : Source := ⟨bytes, [], none⟩

/-- The source that a regular file of some bytes is. -/
def ofFile (bytes : List UInt8) : Source := ⟨bytes, [], some bytes.length⟩

/-- A source without anything. -/
def empty : Source := ofBytes []

/-- A source that repeats a period. -/
def repeating (period : List UInt8) : Source := ⟨[], period, none⟩

/-- The source has no end. -/
def isEndless (source : Source) : Bool := !source.period.isEmpty

/-- Some bytes of a period over and over. -/
def cycle (period : List UInt8) (count : Nat) : List UInt8 :=
  (List.replicate (count / period.length + 1) period).flatten.take count

/-- The first bytes of a source. -/
def take (source : Source) (count : Nat) : List UInt8 :=
  source.bytes.take count ++ cycle source.period (count - source.bytes.length)

end Source

/-! ## Runs -/

/-- How a program ends. -/
inductive Ending where
  | exited (code : Nat)
  | signalled (signal : Nat)
  /-- It runs on for ever. -/
  | endless
  /-- It runs on for ever and writes a period over and over. -/
  | flooding (period : List UInt8)
deriving DecidableEq, Repr

/-- The number of the process of every program that is started; nothing tells programs apart by
it. -/
def processNumber : Nat := 1000

/-- A moment, which may never come. -/
abbrev Moment := Option Nat

/-- The later one of two moments. -/
def Moment.max : Moment → Moment → Moment
  | some first, some second => some (Nat.max first second)
  | _, _ => none

/-- A run of a program; its times count from its start. -/
structure Run where
  writes : List Write
  duration : Nat
  ending : Ending
  /-- When the programs in the background have ended that share its streams. -/
  held : Moment
deriving DecidableEq, Repr

namespace Run

/-- A run without anything in the background. -/
def ofWrites (writes : List Write) (duration : Nat) (ending : Ending) : Run :=
  ⟨writes, duration, ending, some 0⟩

/-- A run that writes nothing and ends at once. -/
def ofEnding (ending : Ending) : Run := ofWrites [] 0 ending

/-- A run that writes nothing and exits at once. -/
def silent (code : Nat) : Run := ofEnding (.exited code)

/-- A run that writes some bytes and exits with zero. -/
def printing (bytes : List UInt8) : Run :=
  ofWrites (if bytes.isEmpty then [] else [⟨0, .stdout, bytes⟩]) 0 (.exited 0)

/-- A run that writes a line on its error output and exits. -/
def complaining (line : String) (code : Nat) : Run :=
  ofWrites [⟨0, .stderr, Text.Utf8.encode (line ++ "\n")⟩] 0 (.exited code)

/-- A run that goes on for ever and writes nothing. -/
def endless : Run := ofEnding .endless

/-- Whether a run ends. -/
def ends (run : Run) : Bool :=
  match run.ending with
  | .exited _ | .signalled _ => true
  | .endless | .flooding _ => false

/-- Some writes at a later time. -/
def shift (time : Nat) (writes : List Write) : List Write :=
  writes.map fun w => { w with time := w.time + time }

/-- A run followed by another one, which gives the ending. -/
def andThen (first second : Run) : Run where
  writes := first.writes ++ shift first.duration second.writes
  duration := first.duration + second.duration
  ending := second.ending
  held := first.held.max (second.held.map (· + first.duration))

/-- The writes in order of time. -/
def sorted (run : Run) : List Write := run.writes.mergeSort fun v w => v.time ≤ w.time

/-- What a run writes on a channel. -/
def written (run : Run) (channel : Channel) : List UInt8 :=
  (run.sorted.filter fun w => w.channel == channel).flatMap Write.bytes

/-- The output of a run as a source. -/
def output (run : Run) : Source where
  bytes := run.written .stdout
  period := match run.ending with
    | .flooding period => period
    | _ => []
  size := none

/-- The run as the behaviour of a process: an exit code is kept up to 255, and a signal gives a
negative one. -/
def behaviour (run : Run) (process : Nat) : Behaviour :=
  let closed := run.held.max (some run.duration)
  match run.ending with
  | .exited code => ⟨process, run.sorted, some (run.duration, (code % 256 : Nat)), closed⟩
  | .signalled signal => ⟨process, run.sorted, some (run.duration, -(signal : Int)), closed⟩
  | .endless | .flooding _ => ⟨process, run.sorted, none, none⟩

end Run

end PostgresAccess.Program
