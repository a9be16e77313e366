import PostgresAccess.Program.Condition
import PostgresAccess.Program.Printing
import PostgresAccess.Program.Replacing

/-!
# Small programs

The programs that helpers are usually made of, by their names: they print their arguments, copy and
count what they read, test conditions, or wait.
-/

namespace PostgresAccess.Program

open Numeral (readReal)

/-- The nanoseconds of an interval, which may end in a letter for its unit; nothing for an endless
one. -/
def interval (s : String) : Option (Option Nat) :=
  let cs := s.toList
  let (body, unit) := match cs.getLast? with
    | some 's' => (cs.dropLast, 1)
    | some 'm' => (cs.dropLast, 60)
    | some 'h' => (cs.dropLast, 3600)
    | some 'd' => (cs.dropLast, 86400)
    | _ => (cs, 1)
  match readReal (String.ofList body) with
  | none => none
  | some x =>
    if x.isNaN || x.isNegative then none
    else some (x.nanoseconds?.map fun n => n.toNat * unit)

/-- Waits for the sum of some intervals. -/
def sleep (arguments : List String) : Run :=
  withOptions "sleep" "" "" arguments fun _ operands =>
    match operands.find? fun operand => (interval operand).isNone with
    | some bad => usageComplaint "sleep" ("invalid time interval '" ++ bad ++ "'")
    | none =>
      if operands.isEmpty then usageComplaint "sleep" "missing operand"
      else
        match operands.mapM fun operand => (interval operand).join with
        | some waits => .ofWrites [] (waits.foldl (· + ·) 0) (.exited 0)
        | none => .endless

/-- The run of a small program. -/
def small? (dialect : Dialect) (scene : Scene) (name : String) (arguments : List String) :
    Option Run :=
  match name with
  | "true" => some (.silent 0)
  | "false" => some (.silent 1)
  | "echo" => some (echo dialect arguments)
  | "printf" => some (printf dialect arguments)
  | "cat" => some (cat scene arguments)
  | "head" => some (head scene arguments)
  | "tr" => some (tr scene arguments)
  | "wc" => some (wc scene arguments)
  | "sleep" => some (sleep arguments)
  | "yes" => some (yes arguments)
  | "seq" => some (seq arguments)
  | "tail" => some (tail scene arguments)
  | "test" => some (test dialect name scene arguments)
  | "[" =>
    if arguments.getLast? = some "]" then some (test dialect name scene arguments.dropLast)
    else
      let who := match dialect with
        | .shell label => label ++ ": ["
        | .standalone => "["
      some (.complaining (who ++ ": missing ]") 2)
  | _ => none

/-- The programs of the shell's own among them. -/
def builtinNames : List String := ["true", "false", "echo", "printf", "test", "["]

end PostgresAccess.Program
