import PostgresAccess.Proofs.Numeral.Runs
import PostgresAccess.Proofs.Result
import PostgresAccess.Proofs.Version.Precedence
import PostgresAccess.Version.Order
import PostgresAccess.Version.Parser

/-!
# Identifiers as texts

An identifier of digits alone denotes a number, and any other one denotes itself
(`semanticIdentifier`).  What the order of versions asks of two identifiers is their precedence, as
long as numbers are not too long to be read (`answers_identifierBefore`).

Several texts denote one number, such as `1` and `01`.  Without leading zeros an identifier is
determined by what it denotes (`semanticIdentifier_injective`).
-/

namespace PostgresAccess

/-! ## Digits -/

namespace Text

theorem eq_of_ofDigits_eq {ds es : List Nat} (hds : ∀ d ∈ ds, d < 10) (hes : ∀ e ∈ es, e < 10)
    (hd : ds.head? = some 0 → ds = [0]) (he : es.head? = some 0 → es = [0])
    (hdne : ds ≠ []) (hene : es ≠ []) (h : ofDigits 10 ds = ofDigits 10 es) : ds = es := by
  -- only the numeral of zero itself may start with zero, and its value is that of no digits
  by_cases hdzero : ds.head? = some 0
  · by_cases hezero : es.head? = some 0
    · rw [hd hdzero, he hezero]
    · have hdigits := digits_ofDigits (by decide) hes hezero
      rw [← h, hd hdzero] at hdigits
      exact absurd (List.reverse_eq_nil_iff.1 hdigits.symm) hene
  · by_cases hezero : es.head? = some 0
    · have hdigits := digits_ofDigits (by decide) hds hdzero
      rw [h, he hezero] at hdigits
      exact absurd (List.reverse_eq_nil_iff.1 hdigits.symm) hdne
    · exact eq_of_ofDigits_eq_of_head? (by decide) hds hes hdzero hezero h

end Text

namespace Version

open Numeral (readInteger digitLimit)

/-- An identifier of digits alone. -/
def isDigits (i : String) : Bool := i.toList.all Char.isDigit

/-- The values of the digits of a text. -/
def digitValues (cs : List Char) : List Nat := cs.map fun c => c.toNat - 48

/-- The number that an identifier of digits denotes. -/
def valueOfDigits (i : String) : Nat := Text.ofDigits 10 (digitValues i.toList)

/-- The identifier that a text denotes. -/
def semanticIdentifier (i : String) : SemVer.Identifier :=
  if isDigits i then .numeric (valueOfDigits i) else .alphanumeric i

/-- An identifier of digits of which the first is a needless zero. -/
def HasLeadingZero (i : String) : Prop :=
  isDigits i = true ∧ ∃ c rest, i.toList = '0' :: c :: rest

/-! ## Characters -/

theorem toNat_of_isDigit {c : Char} (h : c.isDigit = true) : 48 ≤ c.toNat ∧ c.toNat ≤ 57 :=
  Char.isDigit_iff_toNat.1 h

theorem toNat_of_isIdentifierChar {c : Char} (h : isIdentifierChar c = true) :
    33 ≤ c.toNat ∧ c.toNat < 128 := by
  have hclasses : (decide (c.val ≥ 'A'.val ∧ c.val ≤ 'Z'.val) ||
      decide (c.val ≥ 'a'.val) && decide (c.val ≤ 'z'.val) || c.isDigit || c == '-') = true := h
  simp only [Bool.or_eq_true, Bool.and_eq_true, decide_eq_true_eq, beq_iff_eq, ge_iff_le,
    UInt32.le_iff_toNat_le] at hclasses
  rcases hclasses with ((⟨low, high⟩ | ⟨low, high⟩) | hdigit) | rfl
  · have hA : 65 ≤ c.toNat := low
    have hZ : c.toNat ≤ 90 := high
    omega
  · have ha : 97 ≤ c.toNat := low
    have hz : c.toNat ≤ 122 := high
    omega
  · have := toNat_of_isDigit hdigit
    omega
  · decide

/-- Among the characters of identifiers, those with a digit value are the digits. -/
theorem isDigitLike_eq_isDigit {c : Char} (h : isIdentifierChar c = true) :
    Text.isDigitLike c = c.isDigit := by
  have hascii := (toNat_of_isIdentifierChar h).2
  -- the other characters that count as digits lie beyond ASCII
  have hother : (Text.digitLikeRanges.any fun range =>
      range.1 ≤ c.toNat && c.toNat ≤ range.2) = false := by
    rw [List.any_eq_false]
    intro range hrange
    have hlow : ∀ range ∈ Text.digitLikeRanges, 128 ≤ range.1 := by decide
    have := hlow range hrange
    simp only [Bool.and_eq_true, decide_eq_true_eq, not_and]
    omega
  rw [Text.isDigitLike, hother, Bool.or_false, Text.isDecimal, Text.digitValue?, if_pos hascii]
  by_cases hdigit : c.isDigit = true
  · rw [if_pos (toNat_of_isDigit hdigit), hdigit]
    rfl
  · have hbounds : ¬ (48 ≤ c.toNat ∧ c.toNat ≤ 57) := fun h => hdigit (Char.isDigit_iff_toNat.2 h)
    rw [if_neg hbounds, (Bool.not_eq_true _).mp hdigit]
    rfl

/-! ## Numbers -/

variable {i j : String}

theorem forall_of_isIdentifier (h : isIdentifier i.toList = true) :
    i.toList ≠ [] ∧ ∀ c ∈ i.toList, isIdentifierChar c = true := by
  simpa [isIdentifier] using h

/-- An identifier is compared as a number when it consists of digits. -/
theorem isNumeric_eq (h : isIdentifier i.toList = true) : isNumeric i = isDigits i := by
  obtain ⟨hne, hchars⟩ := forall_of_isIdentifier h
  have hempty : i.isEmpty = false := by
    rw [Bool.eq_false_iff, Ne, String.isEmpty_iff]
    rintro rfl
    exact hne rfl
  have hall : i.toList.all Text.isDigitLike = i.toList.all Char.isDigit := by
    rw [Bool.eq_iff_iff, List.all_eq_true, List.all_eq_true]
    constructor
    · intro hlike c hc
      rw [← isDigitLike_eq_isDigit (hchars c hc), hlike c hc]
    · intro hdigit c hc
      rw [isDigitLike_eq_isDigit (hchars c hc), hdigit c hc]
  rw [isNumeric, hempty, hall]
  rfl

theorem filterMap_digitValue? {cs : List Char} (h : ∀ c ∈ cs, c.isDigit = true) :
    cs.filterMap Text.digitValue? = digitValues cs := by
  induction cs with
  | nil => rfl
  | cons c rest ih =>
    have hc := Text.digitValue?_ascii (h c (.head _))
    have hrest := ih fun c' hc' => h c' (.tail _ hc')
    rw [List.filterMap_cons_some hc, hrest]
    rfl

/-- An identifier of digits is read as the number that it denotes, unless it is too long. -/
theorem readInteger_eq_ite (hne : i.toList ≠ []) (h : isDigits i = true) :
    readInteger i = if i.toList.length > digitLimit then .error (.tooLong i.toList.length)
      else .ok (valueOfDigits i) := by
  have hall : ∀ c ∈ i.toList, c.isDigit = true := List.all_eq_true.1 h
  have hdecimal : ∀ c ∈ i.toList, Text.isDecimal c = true := by
    intro c hc
    simp [Text.isDecimal, Text.digitValue?_ascii (hall c hc)]
  have hvalue : Numeral.valueOfRun i.toList = valueOfDigits i := by
    rw [Numeral.valueOfRun, filterMap_digitValue? hall, valueOfDigits, Text.ofDigits_eq]
  have hread := Numeral.readInteger_of_isDecimal hne hdecimal
  rw [String.ofList_toList, hvalue] at hread
  exact hread

theorem readInteger_of_isDigits (hne : i.toList ≠ []) (h : isDigits i = true)
    (few : i.toList.length ≤ digitLimit) : readInteger i = .ok (valueOfDigits i) := by
  rw [readInteger_eq_ite hne h, if_neg (Nat.not_lt.2 few)]

/-! ## Precedence -/

open SemVer (Identifier)

theorem semanticIdentifier_of_isDigits (h : isDigits i = true) :
    semanticIdentifier i = .numeric (valueOfDigits i) := if_pos h

theorem semanticIdentifier_of_not_isDigits (h : isDigits i = false) :
    semanticIdentifier i = .alphanumeric i := if_neg (by simp [h])

/-- An identifier that is not too long to be compared: it is not read as a number, or it is read. -/
def IsComparable (i : String) : Prop :=
  isIdentifier i.toList = true ∧ (isDigits i = true → i.toList.length ≤ digitLimit)

/-- What is asked of two identifiers is the precedence of what they denote. -/
theorem answers_identifierBefore (hi : IsComparable i) (hj : IsComparable j) :
    Result.Answers (identifierBefore i j)
      ((semanticIdentifier i).Precedes (semanticIdentifier j)) := by
  obtain ⟨hi, hifew⟩ := hi
  obtain ⟨hj, hjfew⟩ := hj
  unfold identifierBefore
  rw [isNumeric_eq hi, isNumeric_eq hj]
  cases hidigits : isDigits i with
  | true =>
    have hiread := readInteger_of_isDigits (forall_of_isIdentifier hi).1 hidigits (hifew hidigits)
    rw [semanticIdentifier_of_isDigits hidigits]
    cases hjdigits : isDigits j with
    | true =>
      have hjread := readInteger_of_isDigits (forall_of_isIdentifier hj).1 hjdigits (hjfew hjdigits)
      rw [semanticIdentifier_of_isDigits hjdigits, hiread, hjread]
      refine Result.Answers.decide.congr ?_
      rw [Int.ofNat_lt]
      constructor
      · exact .numeric
      · rintro (h | _ | _)
        exact h
    | false =>
      rw [semanticIdentifier_of_not_isDigits hjdigits]
      exact .yes (.mixed _ _)
  | false =>
    rw [semanticIdentifier_of_not_isDigits hidigits]
    cases hjdigits : isDigits j with
    | true =>
      rw [semanticIdentifier_of_isDigits hjdigits]
      exact .no nofun
    | false =>
      rw [semanticIdentifier_of_not_isDigits hjdigits]
      refine Result.Answers.decide.congr ?_
      constructor
      · exact .alphanumeric
      · rintro (_ | _ | h)
        exact h

theorem eq_of_values_eq {cs ds : List Char} (hcs : ∀ c ∈ cs, c.isDigit = true)
    (hds : ∀ d ∈ ds, d.isDigit = true)
    (h : digitValues cs = digitValues ds) : cs = ds := by
  induction cs generalizing ds with
  | nil => exact (List.map_eq_nil_iff.1 h.symm).symm
  | cons c cs ih =>
    cases ds with
    | nil => cases h
    | cons d ds =>
      have hhead : c.toNat - 48 = d.toNat - 48 := (List.cons.inj h).1
      have hc := toNat_of_isDigit (hcs c (.head _))
      have hd := toNat_of_isDigit (hds d (.head _))
      have heq : c = d := Char.toNat_inj.1 (by omega)
      rw [heq, ih (fun c' hc' => hcs c' (.tail _ hc')) (fun d' hd' => hds d' (.tail _ hd'))
        (List.cons.inj h).2]

theorem values_lt {cs : List Char} (h : ∀ c ∈ cs, c.isDigit = true) :
    ∀ d ∈ digitValues cs, d < 10 := by
  intro d hd
  obtain ⟨c, hc, rfl⟩ := List.mem_map.1 hd
  have := toNat_of_isDigit (h c hc)
  omega

/-- Digits without a needless zero start with zero only if there is nothing else. -/
theorem values_of_head?_eq_zero (h : isDigits i = true) (hzero : ¬ HasLeadingZero i)
    (hhead : (digitValues i.toList).head? = some 0) : digitValues i.toList = [0] := by
  have hall : ∀ c ∈ i.toList, c.isDigit = true := List.all_eq_true.1 h
  cases hi : i.toList with
  | nil => simp [hi, digitValues] at hhead
  | cons c rest =>
    rw [hi] at hhead
    have hc := toNat_of_isDigit (hall c (by rw [hi]; exact .head _))
    have hvalue : c.toNat - 48 = 0 := Option.some.inj hhead
    have hczero : c = '0' := Char.toNat_inj.1 (by have : '0'.toNat = 48 := rfl; omega)
    cases rest with
    | nil => rw [digitValues, List.map_cons, hvalue, List.map_nil]
    | cons next later =>
      rw [hczero] at hi
      exact absurd ⟨h, next, later, hi⟩ hzero

/-- Without leading zeros, different texts denote different identifiers. -/
theorem semanticIdentifier_injective (hi : isIdentifier i.toList = true)
    (hj : isIdentifier j.toList = true) (hizero : ¬ HasLeadingZero i) (hjzero : ¬ HasLeadingZero j)
    (h : semanticIdentifier i = semanticIdentifier j) : i = j := by
  cases hidigits : isDigits i with
  | true =>
    cases hjdigits : isDigits j with
    | true =>
      rw [semanticIdentifier_of_isDigits hidigits, semanticIdentifier_of_isDigits hjdigits] at h
      have hiall : ∀ c ∈ i.toList, c.isDigit = true := List.all_eq_true.1 hidigits
      have hjall : ∀ c ∈ j.toList, c.isDigit = true := List.all_eq_true.1 hjdigits
      -- equal numbers have the same digits, as there are some and none of them is needless
      have hine : digitValues i.toList ≠ [] := by
        simpa [digitValues] using (forall_of_isIdentifier hi).1
      have hjne : digitValues j.toList ≠ [] := by
        simpa [digitValues] using (forall_of_isIdentifier hj).1
      have hvalues := Text.eq_of_ofDigits_eq (values_lt hiall) (values_lt hjall)
        (values_of_head?_eq_zero hidigits hizero) (values_of_head?_eq_zero hjdigits hjzero)
        hine hjne (Identifier.numeric.inj h)
      exact String.toList_inj.1 (eq_of_values_eq hiall hjall hvalues)
    | false =>
      rw [semanticIdentifier_of_isDigits hidigits, semanticIdentifier_of_not_isDigits hjdigits] at h
      cases h
  | false =>
    cases hjdigits : isDigits j with
    | true =>
      rw [semanticIdentifier_of_not_isDigits hidigits, semanticIdentifier_of_isDigits hjdigits] at h
      cases h
    | false =>
      rw [semanticIdentifier_of_not_isDigits hidigits, semanticIdentifier_of_not_isDigits hjdigits]
        at h
      cases h
      rfl

end Version

end PostgresAccess
