import PostgresAccess.Numeral.Binary64

/-!
# Comparing numbers

Integers and floating-point numbers are compared by their exact values, across the two kinds: a
number has a place on the line of the rationals or at one of its two ends, and a NaN has none.  The
two zeros have one place.
-/

namespace PostgresAccess.Numeral

/-- A number of either kind. -/
inductive Number where
  | whole (n : Int)
  | real (x : Binary64)
deriving DecidableEq, Repr

/-- A place on the line of the numbers. -/
inductive Place where
  | lowest
  /-- A rational number by its numerator and its denominator, which is not zero. -/
  | rational (numerator : Int) (denominator : Nat)
  | highest
deriving DecidableEq, Repr

/-- Whether one place is below another. -/
def Place.before : Place → Place → Bool
  | .lowest, .lowest => false
  | .lowest, _ => true
  | .rational a b, .rational c d => a * (d : Int) < c * (b : Int)
  | .rational .., .highest => true
  | .rational .., .lowest => false
  | .highest, _ => false

/-- The place of a floating-point number. -/
def Binary64.place? (x : Binary64) : Option Place :=
  if x.isNaN then none
  else if x.isFinite then
    let (numerator, denominator) := x.ratio
    some (.rational (if x.isNegative then -(numerator : Int) else numerator) denominator)
  else some (if x.isNegative then .lowest else .highest)

/-- The place of a number. -/
def Number.place? : Number → Option Place
  | .whole n => some (.rational n 1)
  | .real x => x.place?

/-- Whether two numbers have the same value. -/
def Number.equals (m n : Number) : Bool :=
  match m.place?, n.place? with
  | some p, some q => !p.before q && !q.before p
  | _, _ => false

/-- Whole numbers have the same value only if they are the same. -/
theorem Number.equals_whole (m n : Int) :
    (Number.whole m).equals (.whole n) = decide (m = n) := by
  by_cases h : m = n
  · simp [Number.equals, Number.place?, Place.before, h]
  · simp [Number.equals, Number.place?, Place.before, h]
    omega

end PostgresAccess.Numeral
