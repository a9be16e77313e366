import PostgresAccess.Text.Blank
import PostgresAccess.Text.Quoted

/-!
# Integers as text

An integer is written as an optional sign and a run of decimal digits of any script, with single
underscores allowed between two digits and white space at both ends.  A run of more than
`digitLimit` digits is refused, in either direction, so that no text costs more than a bounded
amount of work: `readInteger` refuses to read it, and a number beyond `isOversized` is refused when
it is to be written.
-/

namespace PostgresAccess.Numeral

open Text

/-- The greatest number of digits that a number may have as text. -/
def digitLimit : Nat := 4300

/-- Why a text is not read as an integer, or an integer not written as a text. -/
inductive IntegerFault where
  /-- The text is no integer. -/
  | malformed (text : String)
  /-- The text has more digits than are read. -/
  | tooLong (digits : Nat)
  /-- The number has more digits than are written. -/
  | oversized
deriving DecidableEq, Repr

/-- The words for a fault.  A text is shown quoted, up to two hundred characters of it. -/
def IntegerFault.message : IntegerFault → String
  | .malformed text =>
    "invalid literal for int() with base 10: "
      ++ String.ofList ((quotedChars text.toList).take 200)
  | .tooLong digits =>
    "Exceeds the limit (4300 digits) for integer string conversion: value has "
      ++ toString digits ++ " digits; use sys.set_int_max_str_digits() to increase the limit"
  | .oversized =>
    "Exceeds the limit (4300 digits) for integer string conversion; "
      ++ "use sys.set_int_max_str_digits() to increase the limit"

/-- The longest run of digits with single underscores between them at the start of a text, as the
values of its digits, and what follows.  `none` unless the text starts with a digit and every
underscore of the run is followed by a digit. -/
def digitRun (digit? : Char → Option Nat) : List Char → Option (List Nat × List Char)
  | [] => none
  | c :: rest =>
    match digit? c with
    | none => none
    | some d =>
      match rest with
      | [] => some ([d], [])
      | '_' :: later => (digitRun digit? later).map fun (digits, after) => (d :: digits, after)
      | next :: later =>
        match digit? next with
        | none => some ([d], next :: later)
        | some _ =>
          (digitRun digit? (next :: later)).map fun (digits, after) => (d :: digits, after)

/-- Splits a sign off a text; `true` for a minus. -/
def splitSign : List Char → Bool × List Char
  | '-' :: rest => (true, rest)
  | '+' :: rest => (false, rest)
  | rest => (false, rest)

/-- A natural number with a sign. -/
def signed (negative : Bool) (n : Nat) : Int := if negative then -(n : Int) else n

/-- Reads an integer. -/
def readInteger (text : String) : Except IntegerFault Int :=
  let (negative, body) := splitSign (text.toList.dropWhile isSpace)
  match digitRun digitValue? body with
  | none => .error (.malformed text)
  | some (digits, after) =>
    if digits.length > digitLimit then .error (.tooLong digits.length)
    else if after.all isSpace then .ok (signed negative (ofDigits 10 digits))
    else .error (.malformed text)

/-- A number with more than `digitLimit` digits. -/
def isOversized (n : Int) : Bool := Nat.pow 10 digitLimit ≤ n.natAbs

/-- A number of few digits can be written. -/
theorem isOversized_of_lt {n : Int} {digits : Nat} (h : n.natAbs < Nat.pow 10 digits)
    (few : digits ≤ digitLimit) : isOversized n = false := by
  have power (k : Nat) (le : digits ≤ k) : Nat.pow 10 digits ≤ Nat.pow 10 k :=
    Nat.pow_le_pow_right (by decide) le
  have limit := power digitLimit few
  rw [isOversized, decide_eq_false_iff_not]
  omega

end PostgresAccess.Numeral
