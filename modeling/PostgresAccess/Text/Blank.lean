/-!
# Blank characters

`isSpace` is the Unicode property `White_Space`.  `isBlank` is the class of characters that count
as white space in a line of text: those with the property, and the four information separators
U+001C to U+001F.  `trim` removes blanks at both ends.

The main statement: trimming yields the empty text exactly on a text of blanks
(`trimBy_eq_nil_iff`).
-/

namespace PostgresAccess.Text

/-- The characters with the Unicode property `White_Space`. -/
def isSpace (c : Char) : Bool :=
  let n := c.toNat
  (9 ≤ n && n ≤ 13) || n == 0x20 || n == 0x85 || n == 0xA0 || n == 0x1680
    || (0x2000 ≤ n && n ≤ 0x200A) || n == 0x2028 || n == 0x2029 || n == 0x202F || n == 0x205F
    || n == 0x3000

/-- The characters that count as white space in a line of text: those with the property
`White_Space` and the information separators. -/
def isBlank (c : Char) : Bool :=
  isSpace c || (0x1C ≤ c.toNat && c.toNat ≤ 0x1F)

/-- Removes the characters of a class from both ends of a list. -/
def trimBy (blank : Char → Bool) (cs : List Char) : List Char :=
  ((cs.dropWhile blank).reverse.dropWhile blank).reverse

/-- Removes the blanks at both ends of a text. -/
def trim (cs : List Char) : List Char := trimBy isBlank cs

/-! ## What trimming leaves -/

/-- Dropping leaves nothing exactly when every character is of the class. -/
theorem dropWhile_eq_nil_iff (blank : Char → Bool) (cs : List Char) :
    cs.dropWhile blank = [] ↔ ∀ c ∈ cs, blank c = true := by
  induction cs with
  | nil => simp
  | cons a cs ih => by_cases ha : blank a = true <;> simp [ha, ih]

/-- Trimming yields the empty text exactly when every character is of the class. -/
theorem trimBy_eq_nil_iff (blank : Char → Bool) (cs : List Char) :
    trimBy blank cs = [] ↔ ∀ c ∈ cs, blank c = true := by
  rw [trimBy, List.reverse_eq_nil_iff, dropWhile_eq_nil_iff]
  constructor
  · intro all
    rw [← dropWhile_eq_nil_iff]
    cases hd : cs.dropWhile blank with
    | nil => rfl
    | cons a rest =>
      have good := all a (by simp [hd])
      have some : cs.dropWhile blank ≠ [] := by simp [hd]
      have bad := List.head_dropWhile_not blank some
      simp [hd, good] at bad
  · intro all c hc
    exact all c ((List.dropWhile_sublist blank).subset (by simpa using hc))

end PostgresAccess.Text
