import PostgresAccess.Numeral.Comparison
import PostgresAccess.Value.Fault

/-!
# Comparing values

Numbers of all kinds are compared by their values, where false counts as zero and true as one; texts
are compared character by character, and lists at their first difference.  Values of any kinds may
be equal or not, and two tables are equal when they have equal values under the same keys, whatever
their order.  Values have an order only within the numbers, the texts or the lists.
-/

namespace PostgresAccess

open Numeral (Number)

/-- The number that a value counts as. -/
def Value.number? : Value → Option Number
  | .bool b => some (.whole (if b then 1 else 0))
  | .int n => some (.whole n)
  | .real x => some (.real x)
  | _ => none

/-- Whether two values are equal as numbers. -/
def equalNumbers (u v : Value) : Bool :=
  match u.number?, v.number? with
  | some m, some n => m.equals n
  | _, _ => false

mutual

/-- Whether two values are equal. -/
def Value.equals : Value → Value → Bool
  | .null, v => v.isNull
  | .text s, v => v.text? == some s
  | .list us, .list vs => equalValues us vs
  | .table us, .table vs => us.length == vs.length && equalEntries us vs
  | .date a, .date b => a == b
  | .time a, .time b => a == b
  | .dateTime a, .dateTime b => a == b
  | u, v => equalNumbers u v

/-- Whether two sequences of values are equal. -/
def equalValues : List Value → List Value → Bool
  | [], [] => true
  | u :: us, v :: vs => u.equals v && equalValues us vs
  | _, _ => false

/-- Whether some entries have equal values in a table. -/
def equalEntries : List (String × Value) → Entries → Bool
  | [], _ => true
  | (key, u) :: us, vs =>
    (match vs.get? key with
      | none => false
      | some v => u.equals v) && equalEntries us vs

end

instance : BEq Value := ⟨Value.equals⟩

/-- Whether a relation holds between two numbers. -/
def Relation.holdsOfNumbers (relation : Relation) (m n : Number) : Bool :=
  match m.place?, n.place? with
  | some p, some q => relation.ofOrder (p.before q) (q.before p)
  | _, _ => false

/-- Whether a relation holds between two values that are no lists. -/
def Relation.holdsOfScalars (relation : Relation) (u v : Value) : Except ValueFault Bool :=
  match u.number?, v.number?, u.text?, v.text? with
  | some m, some n, _, _ => .ok (relation.holdsOfNumbers m n)
  | _, _, some s, some t => .ok (relation.ofOrder (s < t) (t < s))
  | _, _, _, _ => .error (.unordered relation u.kindName v.kindName)

mutual

/-- Whether a relation holds between two values. -/
def Value.related (relation : Relation) : Value → Value → Except ValueFault Bool
  | .list us, .list vs => relatedValues relation us vs
  | u, v => relation.holdsOfScalars u v

/-- Whether a relation holds between two sequences of values: between the first two that differ, or
else between their lengths. -/
def relatedValues (relation : Relation) : List Value → List Value → Except ValueFault Bool
  | [], vs => .ok (relation.ofOrder (!vs.isEmpty) false)
  | _ :: _, [] => .ok (relation.ofOrder false true)
  | u :: us, v :: vs => if u.equals v then relatedValues relation us vs else u.related relation v

end

end PostgresAccess
