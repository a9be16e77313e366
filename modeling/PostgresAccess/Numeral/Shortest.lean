import PostgresAccess.Numeral.Binary64

/-!
# Writing a binary number with the fewest digits

A finite number is written with the fewest decimal digits that read back as the same number, and of
those with the digits nearest to it.  The numbers that read back form an interval around it, whose
ends belong to it when the significand is even.  For each count of digits from one to seventeen the
two decimals next to the number are tested against the interval; the first count with a hit wins.

The text is positional for numbers from `1e-4` up to `1e16` and always shows a point or a power of
ten, so that it cannot be taken for an integer.
-/

namespace PostgresAccess.Numeral.Binary64

/-- The interval of the numbers that read back as a given one, in quarters of its last place: the
distances of the lower and the upper end. -/
def margins (x : Binary64) : Nat × Nat :=
  let (m, q) := x.parts
  -- Below a power of two the neighbour is half as far away.
  if m = exponentUnit ∧ -1074 < q then (1, 2) else (2, 2)

/-- A positive decimal `digits · 10 ^ exponent`. -/
structure Decimal where
  digits : Nat
  exponent : Int
deriving DecidableEq, Repr

/-- The power of ten of the leading digit of a positive number. -/
def leadingPower (x : Binary64) : Int :=
  let (numerator, denominator) := x.ratio
  ((toString (numerator * Nat.pow 10 400 / denominator)).length : Int) - 401

/-- The decimal with a given count of digits that reads back as the number and is nearest to it, if
there is one. -/
def decimalOfWidth? (x : Binary64) (width : Nat) : Option Decimal :=
  let (m, q) := x.parts
  let (below, above) := x.margins
  let exponent : Int := x.leadingPower - width + 1
  -- Everything is counted in units of 10 ^ exponent / scale.
  let scale := 4 * Nat.pow 2 (-q).toNat * Nat.pow 10 exponent.toNat
  let place := Nat.pow 2 q.toNat * Nat.pow 10 (-exponent).toNat
  let value := 4 * m * place
  let low := value - below * place
  let high := value + above * place
  let even := m % 2 = 0
  let inside (n : Nat) : Bool :=
    if even then low ≤ n * scale && n * scale ≤ high else low < n * scale && n * scale < high
  let down := value / scale
  let up := down + 1
  match inside down, inside up with
  | true, false => some ⟨down, exponent⟩
  | false, true => some ⟨up, exponent⟩
  | false, false => none
  | true, true =>
    let fromBelow := value - down * scale
    let fromAbove := up * scale - value
    if fromBelow < fromAbove ∨ (fromBelow = fromAbove ∧ down % 2 = 0) then some ⟨down, exponent⟩
    else some ⟨up, exponent⟩

/-- The decimal with the fewest digits that reads back as a positive number. -/
def shortest (x : Binary64) : Decimal :=
  ((List.range 17).findSome? fun width => x.decimalOfWidth? (width + 1)).getD ⟨0, 0⟩

/-- Removes the zeros at the end of a list of digits. -/
def dropTrailingZeros (digits : List Char) : List Char :=
  (digits.reverse.dropWhile (· == '0')).reverse

/-- The digits of a positive number, without zeros at the end, and the power of ten of the first
of them. -/
def leadingDigits (x : Binary64) : List Char × Int :=
  let decimal := x.shortest
  let digits := (toString decimal.digits).toList
  (dropTrailingZeros digits, decimal.exponent + digits.length - 1)

/-- A power of ten with its sign and at least two digits. -/
def powerText (power : Int) : List Char :=
  let digits := (toString power.natAbs).toList
  (if power < 0 then '-' else '+') :: (if digits.length < 2 then '0' :: digits else digits)

/-- The text of a positive number from its digits and the power of ten of the first. -/
def magnitudeText (digits : List Char) (power : Int) : List Char :=
  if power < -4 ∨ 16 ≤ power then
    match digits with
    | [] => []
    | [d] => d :: 'e' :: powerText power
    | d :: rest => d :: '.' :: rest ++ 'e' :: powerText power
  else if power < 0 then
    '0' :: '.' :: List.replicate ((-power).toNat - 1) '0' ++ digits
  else
    let whole := power.toNat + 1
    let fraction := digits.drop whole
    let padded := digits.take whole ++ List.replicate (whole - digits.length) '0'
    padded ++ '.' :: (if fraction.isEmpty then ['0'] else fraction)

/-- The text of a number. -/
def text (x : Binary64) : String :=
  if x.isNaN then "nan"
  else
    let body :=
      if !x.isFinite then "inf".toList
      else if x.magnitudeBits = 0 then "0.0".toList
      else
        let (digits, power) := x.leadingDigits
        magnitudeText digits power
    String.ofList (if x.isNegative then '-' :: body else body)

end PostgresAccess.Numeral.Binary64
