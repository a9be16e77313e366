import PostgresAccess.Program.Format

/-!
# Arithmetic of the shell

An expression of whole numbers, names and operators has a value.  Operators of a higher level bind
closer; a comparison and a logical operator give one or zero.
-/

namespace PostgresAccess.Program.Shell

open Text (asciiDigit? hexDigit? ofDigits)

/-- Why an expression has no value. -/
inductive ArithmeticFault where
  | expectingPrimary
  | expectingEnd
  | divisionByZero
  /-- The value of a name is no number. -/
  | illegalNumber (text : String)
deriving DecidableEq, Repr

/-- The words for a fault in an expression. -/
def ArithmeticFault.message (expression : String) : ArithmeticFault → String
  | .expectingPrimary => "arithmetic expression: expecting primary: \"" ++ expression ++ "\""
  | .expectingEnd => "arithmetic expression: expecting EOF: \"" ++ expression ++ "\""
  | .divisionByZero => "arithmetic expression: division by zero: \"" ++ expression ++ "\""
  | .illegalNumber text => "Illegal number: " ++ text

/-- The number of a truth value. -/
def truth (b : Bool) : Int := if b then 1 else 0

/-- The result of dividing, unless the divisor is zero. -/
def quotient (f : Int → Int → Int) (m n : Int) : Except ArithmeticFault Int :=
  if n = 0 then .error .divisionByZero else .ok (f m n)

/-- A function of the bits of two numbers, as numbers of 64 bits. -/
def onBits (f : UInt64 → UInt64 → UInt64) (m n : Int) : Int :=
  (f (UInt64.ofInt m) (UInt64.ofInt n)).toInt64.toInt

/-- The operators between two operands: the sign, the level and the function. -/
def operators : List (String × Nat × (Int → Int → Except ArithmeticFault Int)) :=
  [("||", 1, fun m n => .ok (truth (m != 0 || n != 0))),
    ("&&", 2, fun m n => .ok (truth (m != 0 && n != 0))),
    ("<<", 8, fun m n => .ok (m * (Nat.pow 2 (n % 64).toNat : Nat))),
    (">>", 8, fun m n => .ok (m / (Nat.pow 2 (n % 64).toNat : Nat))),
    ("==", 6, fun m n => .ok (truth (m == n))), ("!=", 6, fun m n => .ok (truth (m != n))),
    ("<=", 7, fun m n => .ok (truth (decide (m ≤ n)))),
    (">=", 7, fun m n => .ok (truth (decide (n ≤ m)))),
    ("<", 7, fun m n => .ok (truth (decide (m < n)))),
    (">", 7, fun m n => .ok (truth (decide (n < m)))),
    ("|", 3, fun m n => .ok (onBits (· ||| ·) m n)),
    ("^", 4, fun m n => .ok (onBits (· ^^^ ·) m n)),
    ("&", 5, fun m n => .ok (onBits (· &&& ·) m n)), ("+", 9, fun m n => .ok (m + n)),
    ("-", 9, fun m n => .ok (m - n)), ("*", 10, fun m n => .ok (m * n)),
    ("/", 10, quotient Int.tdiv), ("%", 10, quotient Int.tmod)]

/-- A character between the parts of an expression. -/
def isGap (c : Char) : Bool := c == ' ' || c == '\t' || c == '\n'

/-- The operator at the start of a text. -/
def operator? (cs : List Char) :
    Option ((String × Nat × (Int → Int → Except ArithmeticFault Int)) × List Char) :=
  (operators.find? fun entry => entry.1.toList.isPrefixOf cs).map fun entry =>
    (entry, cs.drop entry.1.length)

/-- The number that a text writes; zero for an empty one. -/
def numberOf (text : String) : Except ArithmeticFault Int :=
  let body := ((text.toList.dropWhile isGap).reverse.dropWhile isGap).reverse
  match integerArgument (String.ofList body) with
  | (n, none) => .ok n
  | (_, some _) => .error (.illegalNumber text)

mutual

/-- The value of an operand, and what follows it. -/
def operand (value : String → String) : Nat → List Char →
    Except ArithmeticFault (Int × List Char)
  | 0, _ => .error .expectingPrimary
  | measure + 1, cs =>
    match cs.dropWhile isGap with
    | '(' :: rest => do
      let (n, rest) ← expression value measure 0 rest
      match rest.dropWhile isGap with
      | ')' :: rest => return (n, rest)
      | _ => throw .expectingPrimary
    | '-' :: rest => (operand value measure rest).map fun (n, rest) => (-n, rest)
    | '+' :: rest => operand value measure rest
    | '!' :: rest => (operand value measure rest).map fun (n, rest) => (truth (n == 0), rest)
    | '~' :: rest => (operand value measure rest).map fun (n, rest) => (-n - 1, rest)
    | c :: rest =>
      let isNamePart (c : Char) : Bool := c.isAlphanum || c == '_'
      let word := (c :: rest).takeWhile isNamePart
      let after := (c :: rest).dropWhile isNamePart
      let text := String.ofList word
      if c.isDigit then (numberOf text).map fun n => (n, after)
      else if word.isEmpty then .error .expectingPrimary
      else (numberOf (value text)).map fun n => (n, after)
    | [] => .error .expectingPrimary

/-- The value of the operators of at least a level, and what follows them. -/
def expression (value : String → String) : Nat → Nat → List Char →
    Except ArithmeticFault (Int × List Char)
  | 0, _, _ => .error .expectingPrimary
  | measure + 1, level, cs => do
    let (n, rest) ← operand value measure cs
    operations value measure level n rest

/-- The value of a first operand and the operators of at least a level after it. -/
def operations (value : String → String) : Nat → Nat → Int → List Char →
    Except ArithmeticFault (Int × List Char)
  | 0, _, n, cs => .ok (n, cs)
  | measure + 1, level, n, cs =>
    match operator? (cs.dropWhile isGap) with
    | none => .ok (n, cs)
    | some ((_, itsLevel, apply), rest) =>
      if itsLevel < level then .ok (n, cs)
      else do
        let (m, rest) ← expression value measure (itsLevel + 1) rest
        operations value measure level (← apply n m) rest

end

/-- The value of an expression, with the values of its names. -/
def evaluateExpression (value : String → String) (text : String) :
    Except ArithmeticFault Int := do
  let cs := text.toList
  if (cs.dropWhile isGap).isEmpty then return 0
  let (n, rest) ← expression value (2 * cs.length + 2) 0 cs
  if (rest.dropWhile isGap).isEmpty then return n else throw .expectingEnd

end PostgresAccess.Program.Shell
