import PostgresAccess.Program.Copying
import PostgresAccess.Program.Format

/-!
# Conditions

The program `test` exits with zero if a condition holds.  A condition is about texts, whole numbers
or files; conditions are joined by `-a` and `-o`, of which the first binds closer, and negated by
an exclamation mark.
-/

namespace PostgresAccess.Program

/-- Why arguments are no condition. -/
inductive ConditionFault where
  | notNumber (argument : String)
  | unexpected (argument : String)
  | missingArgument (operator : String)
deriving DecidableEq, Repr

/-- The words for a fault. -/
def ConditionFault.message : ConditionFault → String
  | .notNumber argument => "Illegal number: " ++ argument
  | .unexpected argument => argument ++ ": unexpected operator"
  | .missingArgument operator => operator ++ ": argument expected"

/-- The relation of whole numbers that an operator asks for. -/
def numberRelation? : String → Option (Int → Int → Bool)
  | "-eq" => some fun m n => m == n
  | "-ne" => some fun m n => m != n
  | "-lt" => some fun m n => decide (m < n)
  | "-le" => some fun m n => decide (m ≤ n)
  | "-gt" => some fun m n => decide (n < m)
  | "-ge" => some fun m n => decide (n ≤ m)
  | _ => none

/-- The relation of texts that an operator asks for. -/
def textRelation? : String → Option (String → String → Bool)
  | "=" => some fun s t => s == t
  | "!=" => some fun s t => s != t
  | "<" => some fun s t => decide (s < t)
  | ">" => some fun s t => decide (t < s)
  | _ => none

/-- A whole number. -/
def conditionNumber (argument : String) : Except ConditionFault Int :=
  match integerArgument argument with
  | (n, none) => if argument = "" then .error (.notNumber argument) else .ok n
  | (_, some _) => .error (.notNumber argument)

/-- The condition of an operator with one argument. -/
def unaryCondition? (scene : Scene) (operator : String) : Option (String → Bool) :=
  let isFile (path : String) : Bool := (scene.files.read (scene.path path)).isOk
  let isThere (path : String) : Bool := (scene.files.walk (scene.path path)).isOk
  let isProgram (path : String) : Bool :=
    match scene.files.walk (scene.path path) with
    | .ok .program => true
    | _ => false
  match operator with
  | "-n" => some fun s => s != ""
  | "-z" => some fun s => s == ""
  | "-e" | "-r" | "-w" => some isThere
  | "-f" => some isFile
  | "-d" => some fun path => isThere path && !isFile path
  | "-s" => some fun path =>
    match scene.files.read (scene.path path) with
    | .ok bytes => !bytes.isEmpty
    | .error _ => isThere path
  | "-x" => some fun path => isThere path && (isProgram path || !isFile path)
  | "-h" | "-L" | "-p" | "-S" | "-b" | "-c" | "-t" => some fun _ => false
  | _ => none

/-- A condition with an operator between two arguments. -/
def binaryCondition (first operator second : String) : Except ConditionFault Bool :=
  match textRelation? operator, numberRelation? operator with
  | some relation, _ => .ok (relation first second)
  | none, some relation => do
    let m ← conditionNumber first
    let n ← conditionNumber second
    return relation m n
  | none, none => .error (.unexpected operator)

/-- Whether an argument is an operator between two arguments. -/
def isBinaryOperator (s : String) : Bool := (textRelation? s).isSome || (numberRelation? s).isSome

/-- Whether the simple condition at the start of some arguments holds, and what follows it. -/
def simpleCondition (scene : Scene) : List String → Except ConditionFault (Bool × List String)
  | [] => .ok (false, [])
  | [s] => .ok (s != "", [])
  | [first, second] =>
    match unaryCondition? scene first with
    | some holds => .ok (holds second, [])
    | none =>
      if isBinaryOperator second then .error (.missingArgument second)
      else .ok (first != "", [second])
  | first :: second :: third :: rest =>
    if isBinaryOperator second then
      (binaryCondition first second third).map fun holds => (holds, rest)
    else
      match unaryCondition? scene first with
      | some holds => .ok (holds second, third :: rest)
      | none => .ok (first != "", second :: third :: rest)

/-- A condition that may be negated; the measure bounds the number of its arguments. -/
def negatedCondition (scene : Scene) : Nat → List String →
    Except ConditionFault (Bool × List String)
  | 0, arguments => simpleCondition scene arguments
  | measure + 1, arguments =>
    match arguments with
    | "!" :: next :: rest =>
      if isBinaryOperator next && !rest.isEmpty then simpleCondition scene arguments
      else (negatedCondition scene measure (next :: rest)).map fun (holds, rest) => (!holds, rest)
    | arguments => simpleCondition scene arguments

/-- Conditions joined by an operator, the first of which has been read; the measure bounds the
number of their arguments. -/
def joinedCondition (operator : String) (join : Bool → Bool → Bool)
    (next : List String → Except ConditionFault (Bool × List String)) :
    Nat → Bool × List String → Except ConditionFault (Bool × List String)
  | 0, read => .ok read
  | measure + 1, (holds, rest) =>
    match rest with
    | mark :: rest =>
      if mark = operator then do
        let (also, rest) ← next rest
        joinedCondition operator join next measure (join holds also, rest)
      else .ok (holds, mark :: rest)
    | [] => .ok (holds, [])

/-- Whether a condition holds. -/
def condition (scene : Scene) (arguments : List String) : Except ConditionFault Bool := do
  let measure := arguments.length
  let single := negatedCondition scene measure
  let both (arguments : List String) : Except ConditionFault (Bool × List String) :=
    single arguments >>= joinedCondition "-a" and single measure
  let (holds, rest) ← both arguments >>= joinedCondition "-o" or both measure
  match rest with
  | [] => return holds
  | next :: _ => throw (.unexpected (arguments.getD (arguments.length - rest.length - 1) next))

/-- Exits with zero if a condition holds.  The program is called by one of two names. -/
def test (dialect : Dialect) (name : String) (scene : Scene) (arguments : List String) : Run :=
  match condition scene arguments with
  | .ok true => .silent 0
  | .ok false => .silent 1
  | .error fault =>
    let who := match dialect with
      | .shell label => label ++ ": " ++ name
      | .standalone => name
    .complaining (who ++ ": " ++ fault.message) 2

end PostgresAccess.Program
