import PostgresAccess.Value

/-!
# What a value does not support

A value of one kind may be used where only values of other kinds make sense.  A fault says which use
was made of which kind.
-/

namespace PostgresAccess

/-- A relation between two values that asks for their order. -/
inductive Relation where
  | before
  | atMost
  | after
  | atLeast
deriving DecidableEq, Repr

namespace Relation

/-- The sign of a relation. -/
def sign : Relation → String
  | .before => "<"
  | .atMost => "<="
  | .after => ">"
  | .atLeast => ">="

/-- Whether a relation holds between two things of which it is known whether the first is less than
the second and whether the second is less than the first. -/
def ofOrder (relation : Relation) (less greater : Bool) : Bool :=
  match relation with
  | .before => less
  | .atMost => !greater
  | .after => greater
  | .atLeast => !less

end Relation

/-- The name of the kind of a value. -/
def Value.kindName : Value → String
  | .null => "NoneType"
  | .bool _ => "bool"
  | .int _ => "int"
  | .real _ => "float"
  | .text _ => "str"
  | .list _ => "list"
  | .table _ => "dict"
  | .date _ => "datetime.date"
  | .time _ => "datetime.time"
  | .dateTime _ => "datetime.datetime"

/-- A use that a kind of value does not support. -/
inductive ValueFault where
  /-- Values of two kinds have no order. -/
  | unordered (relation : Relation) (left right : String)
  /-- A value of the kind has no members. -/
  | notIterable (kind : String)
  /-- A value of the kind cannot be looked up in a set. -/
  | notLookedUp (kind : String)
  /-- A part of a joined text is no text. -/
  | notJoined (place : Nat) (kind : String)
  /-- A value of the kind names no program and is no argument of one. -/
  | notName (kind : String)
  /-- A value of the kind has no part of the name. -/
  | noPart (kind name : String)
deriving DecidableEq, Repr

/-- The words for a fault. -/
def ValueFault.message : ValueFault → String
  | .unordered relation left right =>
    "'" ++ relation.sign ++ "' not supported between instances of '" ++ left ++ "' and '" ++ right
      ++ "'"
  | .notIterable kind => "'" ++ kind ++ "' object is not iterable"
  | .notLookedUp kind => "unhashable type: '" ++ kind ++ "'"
  | .notJoined place kind =>
    "sequence item " ++ toString place ++ ": expected str instance, " ++ kind ++ " found"
  | .notName kind => "expected str, bytes or os.PathLike object, not " ++ kind
  | .noPart kind name => "'" ++ kind ++ "' object has no attribute '" ++ name ++ "'"

namespace Value

/-- The members of a value: the characters of a text, the values of a list, the keys of a table. -/
def members : Value → Except ValueFault (List Value)
  | .text s => .ok (s.toList.map fun c => .text (String.singleton c))
  | .list values => .ok values
  | .table entries => .ok (entries.map fun entry => .text entry.1)
  | v => .error (.notIterable v.kindName)

/-- Why a value cannot be looked up in a set: it is a list or a table. -/
def lookUpFault? : Value → Option ValueFault
  | .list _ => some (.notLookedUp "list")
  | .table _ => some (.notLookedUp "dict")
  | _ => none

/-- Texts joined with a separator between them, if all of some values are texts. -/
def joined (separator : String) (values : List Value) : Except ValueFault String :=
  let numbered := values.zipIdx
  match numbered.find? fun (v, _) => v.text?.isNone with
  | some (v, place) => .error (.notJoined place v.kindName)
  | none => .ok (separator.intercalate (values.filterMap Value.text?))

end Value

end PostgresAccess
