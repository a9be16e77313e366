import PostgresAccess.Numeral.Binary64
import PostgresAccess.Numeral.Integer

/-!
# Reading a decimal number

A decimal number `m · 10 ^ e` is read as the nearest binary floating-point number, a tie going to
the even significand.  The quotient is formed exactly; only numbers so large or so small that their
digits decide are settled without it.

The text of a number is an optional sign followed by digits with an optional point and an optional
power of ten, or one of the words for the infinities and for NaN.  Digits may be of any script and
single underscores may stand between them; white space at both ends is ignored.
-/

namespace PostgresAccess.Numeral

open Text

namespace Binary64

/-- The quotient of two integers rounded to the nearest integer, a tie to the even one. -/
def divideToEven (numerator denominator : Nat) : Nat :=
  let quotient := numerator / denominator
  let remainder := numerator % denominator
  if 2 * remainder < denominator then quotient
  else if denominator < 2 * remainder then quotient + 1
  else quotient + quotient % 2

/-- The magnitude bits of the number nearest to a positive fraction. -/
def nearestBits (numerator denominator : Nat) : Nat :=
  let estimate : Int := (numerator.log2 : Int) - denominator.log2 - 52
  -- The fraction has at most one bit less than the estimate says.
  let tooHigh : Bool := numerator * Nat.pow 2 (-estimate).toNat <
    exponentUnit * (denominator * Nat.pow 2 estimate.toNat)
  let q : Int := max (-1074) (if tooHigh then estimate - 1 else estimate)
  let significand :=
    divideToEven (numerator * Nat.pow 2 (-q).toNat) (denominator * Nat.pow 2 q.toNat)
  min infinityBits ((q + 1074).toNat * exponentUnit + significand)

/-- The number nearest to `m · 10 ^ e`, where `m` is given by its digits. -/
def ofDecimal (negative : Bool) (digits : List Nat) (exponent : Int) : Binary64 :=
  let m := ofDigits 10 digits
  let width : Int := (digits.dropWhile (· == 0)).length + exponent
  if m = 0 ∨ width < -330 then ofMagnitudeBits negative 0
  else if 310 < width then infinity negative
  else
    ofMagnitudeBits negative
      (nearestBits (m * Nat.pow 10 exponent.toNat) (Nat.pow 10 (-exponent).toNat))

end Binary64

/-! ## The text of a number -/

/-- An optional run of digits: no digits when the text does not start with one. -/
def digitRunOrNone (cs : List Char) : Option (List Nat × List Char) :=
  match cs with
  | [] => some ([], [])
  | c :: _ => if isDecimal c then digitRun digitValue? cs else some ([], cs)

/-- The power of ten at the end of a number, zero when there is none. -/
def readPower (cs : List Char) : Option (Int × List Char) :=
  match cs with
  | 'e' :: rest | 'E' :: rest => do
    let (negative, body) := splitSign rest
    let (digits, after) ← digitRun digitValue? body
    some (signed negative (ofDigits 10 digits), after)
  | _ => some (0, cs)

/-- Reads the digits, the point and the power of ten of a number. -/
def readMagnitude (negative : Bool) (cs : List Char) : Option (Binary64 × List Char) := do
  let (whole, rest) ← digitRunOrNone cs
  let (fraction, rest) ← match rest with
    | '.' :: rest => digitRunOrNone rest
    | rest => some ([], rest)
  if whole.isEmpty && fraction.isEmpty then none
  let (power, rest) ← readPower rest
  some (.ofDecimal negative (whole ++ fraction) (power - fraction.length), rest)

/-- Reads a number. -/
def readReal (text : String) : Option Binary64 :=
  let (negative, body) := splitSign (trimBy isSpace text.toList)
  let word := String.ofList (body.map Char.toLower)
  if word == "inf" || word == "infinity" then some (.infinity negative)
  else if word == "nan" then some .nan
  else
    match readMagnitude negative body with
    | some (x, []) => some x
    | _ => none

end PostgresAccess.Numeral
