import PostgresAccess.Value
import PostgresAccess.Numeral.Nearest

/-!
# Reading JSON

A JSON document is read as a value.  A number with a point or a power of ten is a floating-point
number and any other number an integer of any size; a table keeps its entries in the order of the
document, and of two entries with one key the later value stays, in the place of the earlier.  A
pair of surrogates is one character; a surrogate alone is read as U+FFFD.

The reader is total: each nested value takes one unit of a measure that starts at the length of the
document.
-/

namespace PostgresAccess.Json

open Text

/-- White space between the tokens of a document. -/
def isJsonBlank (c : Char) : Bool := c == ' ' || c == '\t' || c == '\n' || c == '\r'

/-- Drops white space. -/
def skip (cs : List Char) : List Char := cs.dropWhile isJsonBlank

/-- Four hexadecimal digits as a code unit. -/
def readUnit : List Char → Option (Nat × List Char)
  | a :: b :: c :: d :: rest => do
    let digits ← [a, b, c, d].mapM hexDigit?
    some (ofDigits 16 digits, rest)
  | _ => none

/-- The character of a letter after a backslash. -/
def simpleEscape? : Char → Option Char
  | 'b' => some '\x08'
  | 'f' => some '\x0c'
  | 'n' => some '\n'
  | 'r' => some '\r'
  | 't' => some '\t'
  | '/' => some '/'
  | '\\' => some '\\'
  | '\x22' => some '\x22'
  | _ => none

/-- The character of a code unit and, if it starts a pair of surrogates, of the next unit. -/
def readEscapedUnit (cs : List Char) : Option (Char × List Char) := do
  let (high, rest) ← readUnit cs
  if 0xD800 ≤ high ∧ high < 0xDC00 then
    match rest with
    | '\\' :: 'u' :: later =>
      let (low, after) ← readUnit later
      if 0xDC00 ≤ low ∧ low < 0xE000 then
        some (Char.ofNat (0x10000 + (high - 0xD800) * 0x400 + (low - 0xDC00)), after)
      else some ('\uFFFD', rest)
    | _ => some ('\uFFFD', rest)
  else if 0xDC00 ≤ high ∧ high < 0xE000 then some ('\uFFFD', rest)
  else some (Char.ofNat high, rest)

/-- The rest of a text after its opening mark; the characters read so far come latest first. -/
def readText (measure : Nat) (read : List Char) (cs : List Char) :
    Option (String × List Char) :=
  match measure, cs with
  | _, '\x22' :: rest => some (String.ofList read.reverse, rest)
  | measure + 1, '\\' :: 'u' :: rest =>
    match readEscapedUnit rest with
    | some (c, after) => readText measure (c :: read) after
    | none => none
  | measure + 1, '\\' :: c :: rest =>
    match simpleEscape? c with
    | some escaped => readText measure (escaped :: read) rest
    | none => none
  | measure + 1, c :: rest => readText measure (c :: read) rest
  | _, _ => none

/-- A character of a number. -/
def isNumberChar (c : Char) : Bool :=
  c.isDigit || c == '-' || c == '+' || c == '.' || c == 'e' || c == 'E'

/-- The number that a token denotes. -/
def numberOfToken (token : List Char) : Option Value :=
  if token.any fun c => c == '.' || c == 'e' || c == 'E' then
    (Numeral.readReal (String.ofList token)).map .real
  else
    let (negative, digits) := match token with
      | '-' :: digits => (true, digits)
      | digits => (false, digits)
    if digits.isEmpty then none
    else (digits.mapM asciiDigit?).map fun ds => .int (Numeral.signed negative (ofDigits 10 ds))

/-- A word of the language or a number. -/
def readScalar (cs : List Char) : Option (Value × List Char) :=
  match cs with
  | 'n' :: 'u' :: 'l' :: 'l' :: rest => some (.null, rest)
  | 't' :: 'r' :: 'u' :: 'e' :: rest => some (.bool true, rest)
  | 'f' :: 'a' :: 'l' :: 's' :: 'e' :: rest => some (.bool false, rest)
  | 'N' :: 'a' :: 'N' :: rest => some (.real .nan, rest)
  | 'I' :: 'n' :: 'f' :: 'i' :: 'n' :: 'i' :: 't' :: 'y' :: rest =>
    some (.real (.infinity false), rest)
  | '-' :: 'I' :: 'n' :: 'f' :: 'i' :: 'n' :: 'i' :: 't' :: 'y' :: rest =>
    some (.real (.infinity true), rest)
  | _ => (numberOfToken (cs.takeWhile isNumberChar)).map (·, cs.dropWhile isNumberChar)

mutual

/-- A value at the start of a text. -/
def readValue : Nat → List Char → Option (Value × List Char)
  | 0, _ => none
  | measure + 1, cs =>
    match skip cs with
    | '\x22' :: rest => do
      let (s, after) ← readText rest.length [] rest
      some (.text s, after)
    | '[' :: rest =>
      match skip rest with
      | ']' :: after => some (.list [], after)
      | inside => do
        let (values, after) ← readValues measure inside
        some (.list values, after)
    | '\x7b' :: rest =>
      match skip rest with
      | '\x7d' :: after => some (.table [], after)
      | inside => do
        let (entries, after) ← readEntries measure [] inside
        some (.table entries, after)
    | scalar => readScalar scalar

/-- The values of a list up to its closing bracket. -/
def readValues : Nat → List Char → Option (List Value × List Char)
  | 0, _ => none
  | measure + 1, cs => do
    let (v, rest) ← readValue measure cs
    match skip rest with
    | ']' :: after => some ([v], after)
    | ',' :: more =>
      let (values, after) ← readValues measure more
      some (v :: values, after)
    | _ => none

/-- The entries of a table up to its closing bracket, after earlier entries. -/
def readEntries : Nat → Entries → List Char → Option (Entries × List Char)
  | 0, _, _ => none
  | measure + 1, entries, cs =>
    match skip cs with
    | '\x22' :: rest => do
      let (key, rest) ← readText rest.length [] rest
      match skip rest with
      | ':' :: rest =>
        let (v, rest) ← readValue measure rest
        let entries := Entries.insert entries key v
        match skip rest with
        | '\x7d' :: after => some (entries, after)
        | ',' :: more => readEntries measure entries more
        | _ => none
      | _ => none
    | _ => none

end

/-- The value of a document. -/
def read (document : String) : Option Value :=
  let cs := document.toList
  match readValue (cs.length + 1) cs with
  | some (v, rest) => if (skip rest).isEmpty then some v else none
  | none => none

end PostgresAccess.Json
