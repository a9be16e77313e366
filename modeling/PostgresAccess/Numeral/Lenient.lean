import PostgresAccess.Numeral.Integer

/-!
# Integers read leniently

A document may give a number as a text.  The text is first read as it stands, as a plain integer:
perhaps a minus, and then a zero alone or digits that start with another one.  A text that is no
plain integer is cleaned and read once more: white space at both ends goes, and so do a plus, one
fraction of zeros, zeros and underscores at the start, and single underscores between digits.
Zeros at the start may be followed by a minus, which then is the sign.

A plain integer of more than `digitLimit` characters is refused for its size if the text starts with
it, whatever follows; a cleaned text is only ever refused as no integer.
-/

namespace PostgresAccess.Numeral

open Text

/-- Why a text is not read as an integer. -/
inductive LenientFault where
  | malformed
  /-- The text starts with an integer of too many digits. -/
  | tooLong
deriving DecidableEq, Repr

/-- An ASCII digit other than zero. -/
def isLeadingDigit (c : Char) : Bool := '1' ≤ c && c ≤ '9'

/-- The digits that a plain integer consists of, at the start of a text: a zero alone, or digits
that start with another one. -/
def plainDigits : List Char → List Char
  | [] => []
  | c :: rest =>
    if c = '0' then ['0']
    else if isLeadingDigit c then c :: rest.takeWhile Char.isDigit
    else []

/-- Reads a plain integer. -/
def readPlain (cs : List Char) : Except LenientFault Int :=
  let (negative, body) : Bool × List Char := match cs with
    | '-' :: rest => (true, rest)
    | cs => (false, cs)
  let digits := plainDigits body
  if digits.isEmpty then .error .malformed
  else if digitLimit < digits.length + (if negative then 1 else 0) then .error .tooLong
  else if digits.length = body.length then
    .ok (signed negative (ofDigits 10 (digits.filterMap asciiDigit?)))
  else .error .malformed

/-- A number without its fraction, if that is a point and zeros. -/
def dropZeroFraction (cs : List Char) : List Char :=
  let reversed := cs.reverse
  match reversed.takeWhile (· == '0'), reversed.dropWhile (· == '0') with
  | _ :: _, '.' :: number => number.reverse
  | _, _ => cs

/-- A number without the zeros and the underscores at its start.  It has to start with a digit; what
remains starts with another digit than zero or with a minus, and a number of nothing but zeros and
underscores keeps its last character. -/
def dropLeadingZeros : List Char → Option (List Char)
  | [] => none
  | c :: rest =>
    if c = '0' then
      match rest.dropWhile fun c => c == '0' || c == '_' with
      | [] => some [rest.getLast?.getD '0']
      | next :: later =>
        if isLeadingDigit next || next == '-' then some (next :: later) else none
    else if isLeadingDigit c then some (c :: rest)
    else none

/-- Whether an underscore follows an underscore or ends the text. -/
def hasStrayUnderscore : List Char → Bool
  | [] => false
  | ['_'] => true
  | '_' :: '_' :: _ => true
  | _ :: rest => hasStrayUnderscore rest

/-- A number without its underscores, each of which has to stand alone between two other
characters. -/
def dropUnderscores (cs : List Char) : Option (List Char) :=
  if cs.head? = some '_' || hasStrayUnderscore cs then none
  else some (cs.filter (· ≠ '_'))

/-- Whether a text starts with a sign. -/
def startsWithSign : List Char → Bool
  | '-' :: _ | '+' :: _ => true
  | _ => false

/-- A text without what a number may have around and between its digits. -/
def cleaned (cs : List Char) : Option (List Char) := do
  let (negative, body) := splitSign (trimBy isSpace cs)
  if startsWithSign body then none
  else
    let number ← dropLeadingZeros (dropZeroFraction body) >>= dropUnderscores
    return if negative then '-' :: number else number

/-- Reads an integer leniently. -/
def readLenient (text : String) : Except LenientFault Int :=
  match readPlain text.toList with
  | .ok n => .ok n
  | .error .tooLong => .error .tooLong
  | .error .malformed =>
    match (cleaned text.toList).map readPlain with
    | some (.ok n) => .ok n
    | _ => .error .malformed

end PostgresAccess.Numeral
