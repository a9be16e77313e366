import PostgresAccess.Text.Digit
import PostgresAccess.Text.Printable

/-!
# Quoted text

A text that is shown inside a message is quoted, so that its ends and its invisible characters can
be seen.  The quotation mark is the single one, unless the text holds a single mark and no double
one.  The backslash and the mark are written after a backslash, the line feed, carriage return and
tab by their letters, and every other character that is not printable by its code point in
hexadecimal.
-/

namespace PostgresAccess.Text

/-- The apostrophe, the usual quotation mark. -/
def singleMark : Char := '\x27'

/-- The other quotation mark. -/
def doubleMark : Char := '\x22'

/-- The quotation mark of a text: the single one unless only the double one needs no escape. -/
def quotationMark (cs : List Char) : Char :=
  if cs.contains singleMark && !cs.contains doubleMark then doubleMark else singleMark

/-- A number in hexadecimal, padded with zeros to a width. -/
def hexadecimal : Nat → Nat → List Char
  | 0, _ => []
  | width + 1, n => hexadecimal width (n / 16) ++ [hexDigit (n % 16)]

/-- The written form of one character between two quotation marks. -/
def quotedChar (mark c : Char) : List Char :=
  if c = '\\' ∨ c = mark then ['\\', c]
  else if c = '\n' then ['\\', 'n']
  else if c = '\r' then ['\\', 'r']
  else if c = '\t' then ['\\', 't']
  else if isPrintable c then [c]
  else if c.toNat < 0x100 then '\\' :: 'x' :: hexadecimal 2 c.toNat
  else if c.toNat < 0x10000 then '\\' :: 'u' :: hexadecimal 4 c.toNat
  else '\\' :: 'U' :: hexadecimal 8 c.toNat

/-- A text between quotation marks. -/
def quotedChars (cs : List Char) : List Char :=
  let mark := quotationMark cs
  mark :: cs.flatMap (quotedChar mark) ++ [mark]

/-- A text between quotation marks. -/
def quoted (s : String) : String := String.ofList (quotedChars s.toList)

end PostgresAccess.Text
