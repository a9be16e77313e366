import PostgresAccess.Toml.Fault

/-!
# Tables within tables

A key leads from a table through nested tables to another one, and creates those that are missing.
Where it meets a list, it may go on in the last member of the list, which is how the headers of a
document reach the table that they opened last.

A document also marks keys: as declared, when a header must not name them again, and as frozen, when
their value was written in full and must not be changed.  A frozen key freezes all keys below it.
-/

namespace PostgresAccess.Toml

/-- Changes the table that a key leads to; nothing if the key meets a value that is no table. -/
def updateNest (followLists : Bool) (change : Entries → Option Entries) :
    Key → Entries → Option Entries
  | [], entries => change entries
  | name :: names, entries =>
    match entries.get? name with
    | none => do
      let nested ← updateNest followLists change names []
      some (entries ++ [(name, .table nested)])
    | some (.table inner) => do
      let nested ← updateNest followLists change names inner
      some (entries.insert name (.table nested))
    | some (.list values) =>
      match followLists, values.getLast? with
      | true, some (.table inner) => do
        let nested ← updateNest followLists change names inner
        some (entries.insert name (.list (values.dropLast ++ [.table nested])))
      | _, _ => none
    | some _ => none

/-- Adds an entry under a new name. -/
def addEntry (name : String) (value : Value) (entries : Entries) : Option Entries :=
  if (entries.get? name).isSome then none else some (entries ++ [(name, value)])

/-- Adds an empty table to the list of a name, which starts the list if there is none. -/
def appendTable (name : String) (entries : Entries) : Option Entries :=
  match entries.get? name with
  | none => some (entries ++ [(name, .list [.table []])])
  | some (.list values) => some (entries.insert name (.list (values ++ [.table []])))
  | some _ => none

/-- Whether one of some frozen keys leads to a key. -/
def isFrozen (frozen : List Key) (key : Key) : Bool := frozen.any (·.isPrefixOf key)

/-- A value that is frozen where it stands: a table or a list. -/
def isCollection : Value → Bool
  | .table _ | .list _ => true
  | _ => false

/-- The key of the table that a key adds to, and the name that it adds. -/
def splitLast (key : Key) : Key × String := (key.dropLast, key.getLast?.getD "")

end PostgresAccess.Toml
