import PostgresAccess.Toml.Nest
import PostgresAccess.Toml.Scalar
import PostgresAccess.Toml.Text

/-!
# Values of a TOML document

A value is a text, a truth value, a number, a date or a time, an array of values, or an inline table
of keys and values.  Arrays may run over several lines and hold comments; inline tables may not.
-/

namespace PostgresAccess.Toml

/-- An inline table that is being read. -/
structure InlineTable where
  entries : Entries
  /-- The keys whose values must not be changed. -/
  frozen : List Key

/-- Adds a value under a key. -/
def InlineTable.add (table : InlineTable) (key : Key) (value : Value) :
    Except Problem InlineTable :=
  if isFrozen table.frozen key then .error (.immutable key)
  else
    let (parent, name) := splitLast key
    match updateNest false some parent table.entries with
    | none => .error .overwritten
    | some _ =>
      match updateNest false (addEntry name value) parent table.entries with
      | none => .error (.duplicateKey name)
      | some entries =>
        .ok ⟨entries, if isCollection value then key :: table.frozen else table.frozen⟩

/-- A text, whose opening mark is the first character. -/
def readText (mark : Char) (rest : List Char) : Except Fault (Value × List Char) :=
  let read := match rest with
    | a :: b :: after => if a = mark ∧ b = mark then readLines mark after else readLine mark rest
    | _ => readLine mark rest
  read.map fun (s, after) => (.text s, after)

mutual

/-- A value. -/
def readValue : Nat → List Char → Except Fault (Value × List Char)
  | 0, cs => fail .invalidValue cs
  | measure + 1, cs =>
    match cs with
    | '\x22' :: rest => readText '\x22' rest
    | '\x27' :: rest => readText '\x27' rest
    | 't' :: 'r' :: 'u' :: 'e' :: rest => .ok (.bool true, rest)
    | 'f' :: 'a' :: 'l' :: 's' :: 'e' :: rest => .ok (.bool false, rest)
    | '[' :: rest => do
      let (values, after) ← readMembers measure rest
      return (.list values, after)
    | '\x7b' :: rest =>
      match skipBlanks rest with
      | '\x7d' :: after => .ok (.table [], after)
      | inside => do
        let (entries, after) ← readInline measure ⟨[], []⟩ inside
        return (.table entries, after)
    | cs => readScalar cs

/-- The members of an array up to its closing bracket. -/
def readMembers : Nat → List Char → Except Fault (List Value × List Char)
  | 0, cs => fail .invalidValue cs
  | measure + 1, cs => do
    match ← skipComments (cs.length + 1) cs with
    | ']' :: after => return ([], after)
    | start =>
      let (value, rest) ← readValue measure start
      match ← skipComments (rest.length + 1) rest with
      | ']' :: after => return ([value], after)
      | ',' :: more =>
        let (values, after) ← readMembers measure more
        return (value :: values, after)
      | rest => fail .unclosedArray rest

/-- The entries of an inline table up to its closing brace, added to earlier ones. -/
def readInline : Nat → InlineTable → List Char → Except Fault (Entries × List Char)
  | 0, _, cs => fail .invalidValue cs
  | measure + 1, table, cs => do
    let (key, rest) ← readKey (cs.length + 1) cs
    match rest with
    | '=' :: rest =>
      let (value, rest) ← readValue measure (skipBlanks rest)
      let table ← (table.add key value).mapError (·.before rest)
      match skipBlanks rest with
      | '\x7d' :: after => return (table.entries, after)
      | ',' :: more => readInline measure table (skipBlanks more)
      | rest => fail .unclosedInlineTable rest
    | rest => fail .equalsExpected rest

end

/-- A key, an equals sign and a value. -/
def readPair (cs : List Char) : Except Fault ((Key × Value) × List Char) := do
  let (key, rest) ← readKey (cs.length + 1) cs
  match rest with
  | '=' :: rest =>
    let start := skipBlanks rest
    let (value, rest) ← readValue (2 * start.length + 2) start
    return ((key, value), rest)
  | rest => fail .equalsExpected rest

end PostgresAccess.Toml
