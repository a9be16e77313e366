import PostgresAccess.Numeral.Binary64

/-!
# Attribute values

The values that a configuration document can hold: the scalars, lists and tables of a JSON or TOML
document, and the dates and times of a TOML document.  A table keeps its entries in the order of
the document, each key once.
-/

namespace PostgresAccess

open Numeral (Binary64)

/-- A day of the calendar. -/
structure Date where
  year : Nat
  month : Nat
  day : Nat
deriving DecidableEq, Repr

/-- A time of day. -/
structure TimeOfDay where
  hour : Nat
  minute : Nat
  second : Nat
  microsecond : Nat
deriving DecidableEq, Repr

/-- A time on a day, with the minutes by which the clock is ahead of universal time if the document
says so. -/
structure DateTime where
  date : Date
  time : TimeOfDay
  offset : Option Int
deriving DecidableEq, Repr

/-- A value of a configuration document. -/
inductive Value where
  | null
  | bool (b : Bool)
  | int (n : Int)
  | real (x : Binary64)
  | text (s : String)
  | list (values : List Value)
  | table (entries : List (String × Value))
  | date (d : Date)
  | time (t : TimeOfDay)
  | dateTime (t : DateTime)
deriving Inhabited

/-- The entries of a table. -/
abbrev Entries := List (String × Value)

namespace Entries

/-- The value of a key. -/
def get? (entries : Entries) (key : String) : Option Value :=
  (entries.find? fun entry => entry.1 == key).map Prod.snd

/-- Sets the value of a key: in its place if the table has the key, at the end otherwise. -/
def insert (entries : Entries) (key : String) (value : Value) : Entries :=
  if entries.any fun entry => entry.1 == key then
    entries.map fun entry => if entry.1 == key then (key, value) else entry
  else
    entries ++ [(key, value)]

end Entries

/-- The value of an optional number. -/
def Value.ofInt? : Option Int → Value
  | none => .null
  | some n => .int n

/-- Whether a value is missing. -/
def Value.isNull : Value → Bool
  | .null => true
  | _ => false

/-- Whether a value says something: it is not missing, not false, not zero and not empty. -/
def Value.isFilled : Value → Bool
  | .null => false
  | .bool b => b
  | .int n => n != 0
  | .real x => x.magnitudeBits != 0
  | .text s => s != ""
  | .list values => !values.isEmpty
  | .table entries => !entries.isEmpty
  | .date _ | .time _ | .dateTime _ => true

/-- The value if it says something, and otherwise a missing one. -/
def Value.filled (v : Value) : Value := if v.isFilled then v else .null

/-- The text that a value is. -/
def Value.text? : Value → Option String
  | .text s => some s
  | _ => none

/-- The integer that a value is. -/
def Value.int? : Value → Option Int
  | .int n => some n
  | _ => none

/-- The truth value that a value is. -/
def Value.bool? : Value → Option Bool
  | .bool b => some b
  | _ => none

/-- The texts of the list that a value is; other members are passed over. -/
def Value.texts : Value → List String
  | .list values => values.filterMap Value.text?
  | _ => []

end PostgresAccess
