/-!
# Decimal digits

The characters of the Unicode category `Nd` come in runs of ten consecutive code points, one run
for each script, and the place in the run is the value of the digit.  `digitValue?` reads that
value.  `isDigitLike` is the wider class of all characters with a digit value, which also holds
superscripts, circled digits and their kin; no number is written with those.

The main statements: a digit's value is below ten (`digitValue?_lt`), and the ASCII digits have
their usual values (`digitValue?_ascii`).
-/

namespace PostgresAccess.Text

/-- The code points of the zeros, one for each run of ten decimal digits. -/
def decimalZeros : List Nat :=
  [0x30, 0x660, 0x6F0, 0x7C0, 0x966, 0x9E6, 0xA66, 0xAE6, 0xB66, 0xBE6, 0xC66, 0xCE6, 0xD66,
   0xDE6, 0xE50, 0xED0, 0xF20, 0x1040, 0x1090, 0x17E0, 0x1810, 0x1946, 0x19D0, 0x1A80, 0x1A90,
   0x1B50, 0x1BB0, 0x1C40, 0x1C50, 0xA620, 0xA8D0, 0xA900, 0xA9D0, 0xA9F0, 0xAA50, 0xABF0,
   0xFF10, 0x104A0, 0x10D30, 0x11066, 0x110F0, 0x11136, 0x111D0, 0x112F0, 0x11450, 0x114D0,
   0x11650, 0x116C0, 0x11730, 0x118E0, 0x11950, 0x11C50, 0x11D50, 0x11DA0, 0x16A60, 0x16AC0,
   0x16B50, 0x1D7CE, 0x1D7D8, 0x1D7E2, 0x1D7EC, 0x1D7F6, 0x1E140, 0x1E2F0, 0x1E950, 0x1FBF0]

/-- The ranges of the characters with a digit value that are not decimal digits. -/
def digitLikeRanges : List (Nat × Nat) :=
  [(0xB2, 0xB3), (0xB9, 0xB9), (0x1369, 0x1371), (0x19DA, 0x19DA), (0x2070, 0x2070),
   (0x2074, 0x2079), (0x2080, 0x2089), (0x2460, 0x2468), (0x2474, 0x247C), (0x2488, 0x2490),
   (0x24EA, 0x24EA), (0x24F5, 0x24FD), (0x24FF, 0x24FF), (0x2776, 0x277E), (0x2780, 0x2788),
   (0x278A, 0x2792), (0x10A40, 0x10A43), (0x10E60, 0x10E68), (0x11052, 0x1105A),
   (0x1F100, 0x1F10A)]

/-- The value of a decimal digit of any script. -/
def digitValue? (c : Char) : Option Nat :=
  if c.toNat < 128 then
    if 48 ≤ c.toNat ∧ c.toNat ≤ 57 then some (c.toNat - 48) else none
  else
    (decimalZeros.find? fun start => start ≤ c.toNat && c.toNat < start + 10).map (c.toNat - ·)

/-- A decimal digit of any script. -/
def isDecimal (c : Char) : Bool := (digitValue? c).isSome

/-- A character with a digit value, be it a decimal digit or another form of a digit. -/
def isDigitLike (c : Char) : Bool :=
  isDecimal c || digitLikeRanges.any fun range => range.1 ≤ c.toNat && c.toNat ≤ range.2

/-- The value of an ASCII digit. -/
def asciiDigit? (c : Char) : Option Nat :=
  if c.isDigit then some (c.toNat - 48) else none

/-- The value of a hexadecimal digit of either case. -/
def hexDigit? (c : Char) : Option Nat :=
  if c.isDigit then some (c.toNat - 48)
  else if 'a' ≤ c ∧ c ≤ 'f' then some (c.toNat - 87)
  else if 'A' ≤ c ∧ c ≤ 'F' then some (c.toNat - 55)
  else none

/-- The digit of a value below sixteen, in lower case. -/
def hexDigit (n : Nat) : Char :=
  if n < 10 then Char.ofNat (48 + n) else Char.ofNat (87 + n)

/-- The number that a sequence of digit values denotes in a base. -/
def ofDigits (base : Nat) (digits : List Nat) : Nat :=
  digits.foldl (fun n d => n * base + d) 0

/-! ## Values of digits -/

/-- The value of a decimal digit is below ten. -/
theorem digitValue?_lt {c : Char} {d : Nat} (h : digitValue? c = some d) : d < 10 := by
  unfold digitValue? at h
  split at h
  · split at h
    · simp only [Option.some.injEq] at h
      omega
    · simp at h
  · obtain ⟨start, found, rfl⟩ := Option.map_eq_some_iff.1 h
    have := List.find?_some found
    simp only [Bool.and_eq_true, decide_eq_true_eq] at this
    omega

/-- An ASCII digit has the same value in every reading. -/
theorem digitValue?_ascii {c : Char} (h : c.isDigit = true) :
    digitValue? c = some (c.toNat - 48) := by
  have bounds : 48 ≤ c.toNat ∧ c.toNat ≤ 57 := by
    simp only [Char.isDigit, Bool.and_eq_true, decide_eq_true_eq, UInt32.le_iff_toNat_le] at h
    exact h
  unfold digitValue?
  rw [if_pos (by omega), if_pos bounds]

end PostgresAccess.Text
