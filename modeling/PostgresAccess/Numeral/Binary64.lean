/-!
# Binary floating point

A number of the format `binary64` is kept as its 64 bits, so that two numbers are equal when they
are the same number, the two zeros differ, and everything about a number is computed from exact
integers.  `parts` gives a finite number as `m · 2 ^ q`, with the `m` and `q` of the format.
-/

namespace PostgresAccess.Numeral

/-- A binary floating-point number of 64 bits. -/
structure Binary64 where
  bits : UInt64
deriving DecidableEq, Repr

namespace Binary64

/-- The weight of the least bit of the exponent field. -/
def exponentUnit : Nat := 0x10000000000000

/-- The weight of the sign bit. -/
def signUnit : Nat := 0x8000000000000000

/-- The bits of the infinities, less the sign. -/
def infinityBits : Nat := 2047 * exponentUnit

/-- The bits of a number less its sign. -/
def magnitudeBits (x : Binary64) : Nat := x.bits.toNat % signUnit

/-- Whether the sign bit is set. -/
def isNegative (x : Binary64) : Bool := signUnit ≤ x.bits.toNat

/-- Neither an infinity nor a NaN. -/
def isFinite (x : Binary64) : Bool := x.magnitudeBits < infinityBits

/-- Not a number. -/
def isNaN (x : Binary64) : Bool := infinityBits < x.magnitudeBits

/-- A number from its magnitude bits and its sign. -/
def ofMagnitudeBits (negative : Bool) (magnitude : Nat) : Binary64 :=
  ⟨UInt64.ofNat (if negative then signUnit + magnitude else magnitude)⟩

/-- An infinity. -/
def infinity (negative : Bool) : Binary64 := ofMagnitudeBits negative infinityBits

/-- The usual NaN. -/
def nan : Binary64 := ofMagnitudeBits false (infinityBits + 0x8000000000000)

/-- The significand and exponent of a finite number: its magnitude is `m · 2 ^ q`. -/
def parts (x : Binary64) : Nat × Int :=
  let exponent := x.magnitudeBits / exponentUnit
  let fraction := x.magnitudeBits % exponentUnit
  if exponent = 0 then (fraction, -1074) else (exponentUnit + fraction, (exponent : Int) - 1075)

/-- The magnitude of a finite number as a fraction of two integers. -/
def ratio (x : Binary64) : Nat × Nat :=
  let (m, q) := x.parts
  (m * Nat.pow 2 q.toNat, Nat.pow 2 (-q).toNat)

/-- The integer that a finite number is, if it is one. -/
def toInt? (x : Binary64) : Option Int :=
  if x.isFinite then
    let (numerator, denominator) := x.ratio
    if numerator % denominator = 0 then
      let n : Int := (numerator / denominator : Nat)
      some (if x.isNegative then -n else n)
    else none
  else none

end Binary64

end PostgresAccess.Numeral
