import PostgresAccess.Program.Option

/-!
# Signals

The signals by their names and numbers, what a shell says about a program that one has ended, and
how `kill` names them.
-/

namespace PostgresAccess.Program.Shell

/-- The names of the signals. -/
def signals : List (String × Nat) :=
  [("HUP", 1), ("INT", 2), ("QUIT", 3), ("ILL", 4), ("TRAP", 5), ("ABRT", 6), ("BUS", 7),
    ("FPE", 8), ("KILL", 9), ("USR1", 10), ("SEGV", 11), ("USR2", 12), ("PIPE", 13), ("ALRM", 14),
    ("TERM", 15), ("STKFLT", 16), ("CHLD", 17), ("CONT", 18), ("STOP", 19), ("TSTP", 20),
    ("TTIN", 21), ("TTOU", 22), ("URG", 23), ("XCPU", 24), ("XFSZ", 25), ("VTALRM", 26),
    ("PROF", 27), ("WINCH", 28), ("IO", 29), ("PWR", 30), ("SYS", 31)]

/-- The greatest number of a signal. -/
def maxSignal : Nat := 64

/-- What a shell says about a program that a signal has ended. -/
def signalWords : Nat → Option String
  | 1 => some "Hangup"
  | 3 => some "Quit"
  | 4 => some "Illegal instruction"
  | 5 => some "Trace/breakpoint trap"
  | 6 => some "Aborted"
  | 7 => some "Bus error"
  | 8 => some "Floating point exception"
  | 9 => some "Killed"
  | 10 => some "User defined signal 1"
  | 11 => some "Segmentation fault"
  | 12 => some "User defined signal 2"
  | 14 => some "Alarm clock"
  | 15 => some "Terminated"
  | _ => none

/-- A signal that programs pass over unless they ask for it. -/
def isPassedOver (signal : Nat) : Bool := [0, 17, 18, 23, 28].contains signal

/-- A signal that stops a program until it is continued. -/
def stops (signal : Nat) : Bool := [19, 20, 21, 22].contains signal

/-- The signal of a name, in letters of either case, or of a number. -/
def signal? (name : String) : Option Nat :=
  match countArgument? name with
  | some n => if n ≤ maxSignal then some n else none
  | none =>
    let upper := name.map Char.toUpper
    if upper = "EXIT" then some 0
    else (signals.find? fun signal => signal.1 == upper).map Prod.snd

/-- Why the arguments of `kill` name nothing. -/
inductive KillFault where
  | noArguments
  | badOption (letter : Char)
  | badName (name : String)
  | badNumber (text : String)
deriving DecidableEq, Repr

/-- The words for a fault. -/
def KillFault.message : KillFault → String
  | .noArguments =>
    "Usage: kill [-s sigspec | -signum | -sigspec] [pid | job]... or\nkill -l [exitstatus]"
  | .badOption letter => "Illegal option -" ++ letter.toString
  | .badName name => "invalid signal number or name: " ++ name
  | .badNumber text => "Illegal number: " ++ text

/-- The signal and the receivers that the arguments of `kill` name. -/
def killArguments (arguments : List String) : Except KillFault (Nat × List String) :=
  let named (name : String) (receivers : List String) : Except KillFault (Nat × List String) :=
    match signal? name with
    | some n => .ok (n, receivers)
    | none => .error (.badName name)
  let receivers (arguments : List String) : List String :=
    if arguments.head? = some "--" then arguments.tail else arguments
  match arguments with
  | [] => .error .noArguments
  | first :: rest =>
    match first.toList with
    | ['-', 's'] =>
      match rest with
      | [] => .error .noArguments
      | name :: rest => named name (receivers rest)
    | ['-', '-'] => .ok (15, rest)
    | '-' :: letter :: more =>
      match signal? (String.ofList (letter :: more)) with
      | some n => .ok (n, receivers rest)
      | none => if letter = 's' then named (String.ofList more) (receivers rest)
        else .error (.badOption letter)
    | _ => .ok (15, arguments)

end PostgresAccess.Program.Shell
