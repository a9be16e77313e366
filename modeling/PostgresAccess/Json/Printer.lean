import PostgresAccess.Value.Literal

/-!
# Writing JSON

A value is written as a JSON document of printable ASCII characters: every other character of a
text is escaped, those beyond U+FFFF as a pair of surrogates.  `compact` writes a document on one
line; `indented` writes each member of a list or table on a line of its own, two spaces deeper than
the line that opens it.
-/

namespace PostgresAccess.Json

open Text (hexadecimal)

/-- A code unit of sixteen bits, escaped. -/
def unitEscape (n : Nat) : List Char := '\\' :: 'u' :: hexadecimal 4 n

/-- The written form of one character of a text. -/
def charText (c : Char) : List Char :=
  let n := c.toNat
  if c = '\x22' ∨ c = '\\' then ['\\', c]
  else if c = '\n' then ['\\', 'n']
  else if c = '\r' then ['\\', 'r']
  else if c = '\t' then ['\\', 't']
  else if n = 8 then ['\\', 'b']
  else if n = 12 then ['\\', 'f']
  else if 0x20 ≤ n ∧ n < 0x7F then [c]
  else if n < 0x10000 then unitEscape n
  else unitEscape (0xD800 + (n - 0x10000) / 0x400) ++ unitEscape (0xDC00 + (n - 0x10000) % 0x400)

/-- A text between quotation marks. -/
def textLiteral (s : String) : String :=
  "\"" ++ String.ofList (s.toList.flatMap charText) ++ "\""

/-- The written form of a value that is neither a list nor a table. -/
def scalarText : Value → String
  | .null => "null"
  | .bool b => if b then "true" else "false"
  | .int n => toString n
  | .real x =>
    if x.isNaN then "NaN"
    else if x.isFinite then x.text
    else if x.isNegative then "-Infinity" else "Infinity"
  | .text s => textLiteral s
  | v => textLiteral v.literal

mutual

/-- A value on one line. -/
def compact : Value → String
  | .list values => "[" ++ ",".intercalate (compactValues values) ++ "]"
  | .table entries => "\x7b" ++ ",".intercalate (compactEntries entries) ++ "\x7d"
  | v => scalarText v

/-- Some values, each on one line. -/
def compactValues : List Value → List String
  | [] => []
  | v :: rest => compact v :: compactValues rest

/-- Some entries, each on one line. -/
def compactEntries : List (String × Value) → List String
  | [] => []
  | (key, v) :: rest => (textLiteral key ++ ":" ++ compact v) :: compactEntries rest

end

/-- The break before a line at a depth. -/
def lineBreak (depth : Nat) : String := "\n" ++ String.ofList (List.replicate (2 * depth) ' ')

/-- Members on lines of their own between two brackets. -/
def block (depth : Nat) (opening closing : String) (members : List String) : String :=
  if members.isEmpty then opening ++ closing
  else
    opening ++ lineBreak (depth + 1) ++ ("," ++ lineBreak (depth + 1)).intercalate members
      ++ lineBreak depth ++ closing

mutual

/-- A value with its members on lines of their own, at a depth. -/
def indentedAt (depth : Nat) : Value → String
  | .list values => block depth "[" "]" (indentedValues (depth + 1) values)
  | .table entries => block depth "\x7b" "\x7d" (indentedEntries (depth + 1) entries)
  | v => scalarText v

/-- Some values at a depth. -/
def indentedValues (depth : Nat) : List Value → List String
  | [] => []
  | v :: rest => indentedAt depth v :: indentedValues depth rest

/-- Some entries at a depth. -/
def indentedEntries (depth : Nat) : List (String × Value) → List String
  | [] => []
  | (key, v) :: rest =>
    (textLiteral key ++ ": " ++ indentedAt depth v) :: indentedEntries depth rest

end

/-- A value with its members on lines of their own. -/
def indented (v : Value) : String := indentedAt 0 v

end PostgresAccess.Json
