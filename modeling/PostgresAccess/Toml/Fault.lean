import PostgresAccess.Value.Literal

/-!
# What is wrong with a TOML document

A fault is a problem at a place of the document.  The place is kept as the number of characters
that are left from there on, which is what a reader knows; a complaint gives the line and the
column.
-/

namespace PostgresAccess.Toml

open Numeral (IntegerFault)
open Text (quoted singleMark)

/-- A key with its dots: the names that lead from table to table. -/
abbrev Key := List String

/-- What is wrong. -/
inductive Problem where
  | invalidStatement
  /-- Something follows a statement on its line. -/
  | newlineExpected
  | unterminatedText
  /-- The character must not stand in a text with escapes. -/
  | illegalCharacter (c : Char)
  /-- The character must not stand in a literal text or a comment. -/
  | invalidCharacter (c : Char)
  /-- The closing mark of a literal text is missing. -/
  | expected (mark : String)
  | unescapedBackslash
  | invalidHexadecimal
  /-- The escaped number is not that of a character. -/
  | notACharacter
  | invalidKeyStart
  | equalsExpected
  | invalidValue
  | invalidDate
  | unclosedArray
  | unclosedInlineTable
  | tableEndExpected
  | arrayEndExpected
  | declaredTwice (key : Key)
  /-- The key leads through or to a value that is there already. -/
  | overwritten
  /-- The key leads into a table or list that was written in full. -/
  | immutable (key : Key)
  /-- The key leads through a table that has a header of its own. -/
  | redefined (key : Key)
  | duplicateKey (name : String)
  /-- The number has more digits than are read. -/
  | number (fault : IntegerFault)
deriving DecidableEq, Repr

/-- The words for a problem. -/
def Problem.message : Problem → String
  | .invalidStatement => "Invalid statement"
  | .newlineExpected => "Expected newline or end of document after a statement"
  | .unterminatedText => "Unterminated string"
  | .illegalCharacter c => "Illegal character " ++ quoted (String.singleton c)
  | .invalidCharacter c => "Found invalid character " ++ quoted (String.singleton c)
  | .expected mark => "Expected " ++ quoted mark
  | .unescapedBackslash => "Unescaped '\\' in a string"
  | .invalidHexadecimal => "Invalid hex value"
  | .notACharacter => "Escaped character is not a Unicode scalar value"
  | .invalidKeyStart => "Invalid initial character for a key part"
  | .equalsExpected => "Expected '=' after a key in a key/value pair"
  | .invalidValue => "Invalid value"
  | .invalidDate => "Invalid date or datetime"
  | .unclosedArray => "Unclosed array"
  | .unclosedInlineTable => "Unclosed inline table"
  | .tableEndExpected => "Expected ']' at the end of a table declaration"
  | .arrayEndExpected => "Expected ']]' at the end of an array declaration"
  | .declaredTwice key => "Cannot declare " ++ textTupleLiteral key ++ " twice"
  | .overwritten => "Cannot overwrite a value"
  | .immutable key => "Cannot mutate immutable namespace " ++ textTupleLiteral key
  | .redefined key => "Cannot redefine namespace " ++ textTupleLiteral key
  | .duplicateKey name => "Duplicate inline table key " ++ quoted name
  | .number fault => fault.message

/-- A problem at a place. -/
structure Fault where
  problem : Problem
  /-- How many characters of the document are left from the place on. -/
  left : Nat
deriving DecidableEq, Repr

/-- A problem where a given rest of the document starts. -/
def Problem.before (problem : Problem) (rest : List Char) : Fault := ⟨problem, rest.length⟩

/-- The line and the column that follow some characters, both counted from one. -/
def lineAndColumn (ahead : List Char) : Nat × Nat :=
  (ahead.count '\n' + 1, (ahead.reverse.takeWhile (· ≠ '\n')).length + 1)

/-- A problem with its line and column, or at the end of the document. -/
structure Complaint where
  problem : Problem
  place : Option (Nat × Nat)
deriving DecidableEq, Repr

/-- A fault of a document with its line and column. -/
def Fault.locate (fault : Fault) (document : List Char) : Complaint :=
  if fault.left = 0 then ⟨fault.problem, none⟩
  else ⟨fault.problem, lineAndColumn (document.take (document.length - fault.left))⟩

/-- The problem and its place. -/
def Complaint.message (complaint : Complaint) : String :=
  match complaint.place with
  | none => complaint.problem.message ++ " (at end of document)"
  | some (line, column) =>
    complaint.problem.message ++ " (at line " ++ toString line ++ ", column " ++ toString column
      ++ ")"

/-- Fails where a rest of the document starts. -/
def fail {α : Type} (problem : Problem) (rest : List Char) : Except Fault α :=
  .error (problem.before rest)

end PostgresAccess.Toml
