import Mathlib.Data.Nat.Digits.Defs
import PostgresAccess.Numeral.Integer

/-!
# Runs of decimal digits

A run is a text of decimal digits, which may be of any script and of several scripts at once.  It
denotes the number that the values of its digits make up (`valueOfRun`), and that is what reading
gives, unless the run has more digits than are read (`readInteger_of_isDecimal`).  The run starts
with neither a blank nor a sign and holds no mark between two digits, so nothing of what the reader
passes over occurs in it.  Conversely, what the reader takes in are digits and the marks between
them (`run_of_digitRun`).

A natural number is written as a run of digits of ASCII, and a negative one as such a run after a
minus sign (`isDigit_of_mem_toString`, `isDigit_or_minus_of_mem_toString`), and no two numbers are
written alike (`toString_inj`).  Digits that do not start with zero, in any base, are determined by
the number that they denote (`Text.eq_of_ofDigits_eq_of_head?`).
-/

namespace PostgresAccess

namespace Text

/-! ## Digits -/

theorem decimalZeros_outside_blanks : ∀ start ∈ decimalZeros,
    (0x20 < start ∧ start + 10 ≤ 0x85) ∨ (0xA0 < start ∧ start + 10 ≤ 0x1680) ∨
      (0x1680 < start ∧ start + 10 ≤ 0x2000) ∨ 0x3000 < start := by
  decide

/-- A decimal digit stands among the ten digits of its script. -/
theorem exists_start_of_isDecimal {c : Char} (h : isDecimal c = true) :
    ∃ start ∈ decimalZeros, start ≤ c.toNat ∧ c.toNat < start + 10 := by
  obtain ⟨d, hd⟩ := Option.isSome_iff_exists.1 h
  unfold digitValue? at hd
  split at hd
  · split at hd
    · exact ⟨0x30, by decide, by omega, by omega⟩
    · cases hd
  · obtain ⟨start, hfound, -⟩ := Option.map_eq_some_iff.1 hd
    have hplace := List.find?_some hfound
    simp only [Bool.and_eq_true, decide_eq_true_eq] at hplace
    exact ⟨start, List.mem_of_find?_eq_some hfound, hplace⟩

theorem isBlank_of_isDecimal {c : Char} (h : isDecimal c = true) : isBlank c = false := by
  obtain ⟨start, hstart, low, high⟩ := exists_start_of_isDecimal h
  have houtside := decimalZeros_outside_blanks start hstart
  simp only [isBlank, isSpace, Bool.or_eq_false_iff, Bool.and_eq_false_iff, beq_eq_false_iff_ne,
    decide_eq_false_iff_not]
  omega

theorem isSpace_of_isDecimal {c : Char} (h : isDecimal c = true) : isSpace c = false :=
  (Bool.or_eq_false_iff.1 (isBlank_of_isDecimal h)).1

theorem ne_of_isDecimal {c d : Char} (h : isDecimal c = true) (hd : isDecimal d = false) :
    c ≠ d := by
  rintro rfl
  rw [h] at hd
  cases hd

/-- The digits, from the last to the first, are those of a numeral. -/
theorem ofDigits_eq {base : Nat} (digits : List Nat) :
    ofDigits base digits = Nat.ofDigits base digits.reverse := by
  rw [Nat.ofDigits_eq_foldr, List.foldr_reverse, ofDigits]
  simp only [Nat.mul_comm, Nat.add_comm, Nat.cast_id]

theorem ofDigits_lt {digits : List Nat} (h : ∀ d ∈ digits, d < 10) :
    ofDigits 10 digits < Nat.pow 10 digits.length := by
  have hreversed : ∀ d ∈ digits.reverse, d < 10 := fun d hd => h d (List.mem_reverse.1 hd)
  have hlt := Nat.ofDigits_lt_base_pow_length (by decide : 1 < 10) hreversed
  rw [List.length_reverse, ← ofDigits_eq] at hlt
  exact hlt

section LeadingDigit

variable {base : Nat} {ds es : List Nat}

/-- Digits that do not start with zero are those of the number that they denote. -/
theorem digits_ofDigits (hbase : 1 < base) (hlt : ∀ d ∈ ds, d < base) (hhead : ds.head? ≠ some 0) :
    Nat.digits base (ofDigits base ds) = ds.reverse := by
  rw [ofDigits_eq]
  refine Nat.digits_ofDigits base hbase ds.reverse (fun d hd => ?_) (fun hne hzero => ?_)
  · exact hlt d (List.mem_reverse.1 hd)
  · rw [List.getLast_reverse, List.head_eq_iff_head?_eq_some] at hzero
    exact hhead hzero

/-- Digits that do not start with zero are determined by the number that they denote. -/
theorem eq_of_ofDigits_eq_of_head? (hbase : 1 < base) (hds : ∀ d ∈ ds, d < base)
    (hes : ∀ e ∈ es, e < base) (hd : ds.head? ≠ some 0) (he : es.head? ≠ some 0)
    (h : ofDigits base ds = ofDigits base es) : ds = es := by
  have hreverse : ds.reverse = es.reverse := by
    rw [← digits_ofDigits hbase hds hd, ← digits_ofDigits hbase hes he, h]
  exact List.reverse_inj.1 hreverse

end LeadingDigit

end Text

namespace Numeral

open Text (digitValue? isDecimal)

/-! ## Runs -/

/-- The number that a run of decimal digits denotes. -/
def valueOfRun (run : List Char) : Nat := Nat.ofDigits 10 (run.filterMap digitValue?).reverse

variable {run : List Char}

theorem length_values (h : ∀ c ∈ run, isDecimal c = true) :
    (run.filterMap digitValue?).length = run.length := by
  rw [List.length_filterMap_eq_countP]
  exact List.countP_eq_length.2 h

theorem lt_of_mem_values {d : Nat} (h : d ∈ run.filterMap digitValue?) : d < 10 := by
  obtain ⟨c, -, hc⟩ := List.mem_filterMap.1 h
  exact Text.digitValue?_lt hc

theorem valueOfRun_lt (h : ∀ c ∈ run, isDecimal c = true) :
    valueOfRun run < Nat.pow 10 run.length := by
  have hlt : Text.ofDigits 10 (run.filterMap digitValue?) < _ :=
    Text.ofDigits_lt fun _ hd => lt_of_mem_values hd
  rw [Text.ofDigits_eq, length_values h] at hlt
  exact hlt

theorem digitRun_of_isDecimal (hne : run ≠ []) (h : ∀ c ∈ run, isDecimal c = true) :
    digitRun digitValue? run = some (run.filterMap digitValue?, []) := by
  induction run with
  | nil => exact absurd rfl hne
  | cons c rest ih =>
    obtain ⟨d, hd⟩ := Option.isSome_iff_exists.1 (h c (.head _))
    cases rest with
    | nil => simp [digitRun, hd]
    | cons next later =>
      have hrest := ih (by simp) fun c' hc' => h c' (.tail _ hc')
      have hnext : isDecimal next = true := h next (.tail _ (.head _))
      obtain ⟨e, he⟩ := Option.isSome_iff_exists.1 hnext
      -- a mark between two digits would be passed over, but a digit is no mark
      have hmark : next ≠ '_' := Text.ne_of_isDecimal hnext (by decide)
      rw [digitRun, hd]
      simp only [he, hrest]
      simp [hd]

/-- What is taken in consists of digits and marks, and the values are those of the digits. -/
theorem run_of_digitRun {cs after : List Char} {digits : List Nat}
    (h : digitRun digitValue? cs = some (digits, after)) :
    ∃ run, cs = run ++ after ∧ run.filterMap digitValue? = digits ∧
      ∀ c ∈ run, isDecimal c = true ∨ c = '_' := by
  -- a run ends at a digit that no digit follows, passes over a single mark, or goes on
  fun_induction digitRun digitValue? cs generalizing digits after with
  | case1 | case2 => cases h
  | case3 c d hd | case5 c d hd =>
    cases h
    have hc : isDecimal c = true := Option.isSome_of_eq_some hd
    exact ⟨[c], rfl, by simp [hd], by simp [hc]⟩
  | case4 c d hd later ih =>
    obtain ⟨⟨others, rest⟩, hothers, heq⟩ := Option.map_eq_some_iff.1 h
    cases heq
    obtain ⟨run, rfl, rfl, hrun⟩ := ih hothers
    have hc : isDecimal c = true := Option.isSome_of_eq_some hd
    have hmark : digitValue? '_' = none := by decide
    refine ⟨c :: '_' :: run, rfl, by simp [hd, hmark], ?_⟩
    exact List.forall_mem_cons.2 ⟨.inl hc, List.forall_mem_cons.2 ⟨.inr rfl, hrun⟩⟩
  | case6 c d hd next later _ _ _ ih =>
    obtain ⟨⟨others, rest⟩, hothers, heq⟩ := Option.map_eq_some_iff.1 h
    cases heq
    obtain ⟨run, hcut, rfl, hrun⟩ := ih hothers
    have hc : isDecimal c = true := Option.isSome_of_eq_some hd
    refine ⟨c :: run, by rw [hcut, List.cons_append], by simp [hd], ?_⟩
    exact List.forall_mem_cons.2 ⟨.inl hc, hrun⟩

theorem ofDigits_lt_of_digitRun {cs after : List Char} {digits : List Nat}
    (h : digitRun digitValue? cs = some (digits, after)) :
    Text.ofDigits 10 digits < Nat.pow 10 digits.length := by
  obtain ⟨run, -, rfl, -⟩ := run_of_digitRun h
  exact Text.ofDigits_lt fun _ hd => lt_of_mem_values hd

theorem splitSign_of_isDecimal (h : ∀ c ∈ run, isDecimal c = true) :
    splitSign (run.dropWhile Text.isSpace) = (false, run) := by
  have hdrop : run.dropWhile Text.isSpace = run := by
    cases run with
    | nil => rfl
    | cons c rest =>
      have hc : Text.isSpace c = false := Text.isSpace_of_isDecimal (h c (.head _))
      simp [hc]
  rw [hdrop]
  unfold splitSign
  split
  · exact absurd (h '-' (.head _)) (by decide)
  · exact absurd (h '+' (.head _)) (by decide)
  · rfl

/-- A run is read as the number that it denotes, unless it is too long. -/
theorem readInteger_of_isDecimal (hne : run ≠ []) (h : ∀ c ∈ run, isDecimal c = true) :
    readInteger (String.ofList run) =
      if run.length > digitLimit then .error (.tooLong run.length) else .ok (valueOfRun run) := by
  have hvalue : signed false (Text.ofDigits 10 (run.filterMap digitValue?)) = valueOfRun run := by
    rw [Text.ofDigits_eq]
    rfl
  rw [readInteger, String.toList_ofList, splitSign_of_isDecimal h]
  simp only [digitRun_of_isDecimal hne h, length_values h, hvalue]
  rfl

/-! ## Numbers in writing -/

theorem isDigit_of_mem_toString {n : Nat} {c : Char} (hc : c ∈ (toString n).toList) :
    c.isDigit = true := by
  rw [Nat.toString_eq_repr, Nat.toList_repr] at hc
  exact Nat.isDigit_of_mem_toDigits (by decide) (by decide) hc

theorem isDigit_or_minus_of_mem_toString {n : Int} {c : Char} (hc : c ∈ (toString n).toList) :
    c.isDigit = true ∨ c = '-' := by
  cases n with
  | ofNat n => exact .inl (isDigit_of_mem_toString hc)
  | negSucc n =>
    have htext : (toString (Int.negSucc n)).toList = '-' :: (toString (n + 1)).toList :=
      String.toList_append
    rw [htext, List.mem_cons] at hc
    exact hc.symm.imp_left isDigit_of_mem_toString

theorem isDigit_of_mem_toString_of_nonneg {n : Int} (hn : 0 ≤ n) {c : Char}
    (hc : c ∈ (toString n).toList) : c.isDigit = true := by
  obtain ⟨k, rfl⟩ := Int.eq_ofNat_of_zero_le hn
  exact isDigit_of_mem_toString hc

theorem not_mem_toString {mark : Char} (hdigit : mark.isDigit = false) (hminus : mark ≠ '-')
    (n : Int) : mark ∉ (toString n).toList := by
  intro hmark
  obtain h | h := isDigit_or_minus_of_mem_toString hmark
  · rw [hdigit] at h
    cases h
  · exact hminus h

theorem toString_natCast_inj {m n : Nat} (h : toString m = toString n) : m = n := by
  have hvalue : ∀ k : Nat, Nat.ofDigitChars 10 (toString k).toList 0 = k := by
    intro k
    rw [Nat.toString_eq_repr, Nat.toList_repr]
    exact Nat.ofDigitChars_toDigits (by decide) (by decide)
  rw [← hvalue m, h, hvalue]

/-- Two numbers are written alike only if they are the same: the sign is that of both, and so are
the digits. -/
theorem toString_inj {m n : Int} : toString m = toString n ↔ m = n := by
  -- only a negative number is written with a minus sign
  have hminus : ∀ k l : Nat, toString (Int.ofNat k) ≠ toString (Int.negSucc l) := by
    intro k l h
    have hsign : '-' ∈ (toString (Int.ofNat k)).toList := by
      rw [h]
      exact String.toList_append ▸ .head _
    have hdigit := isDigit_of_mem_toString_of_nonneg (Int.natCast_nonneg k) hsign
    cases hdigit
  refine ⟨fun h => ?_, congrArg toString⟩
  cases m with
  | ofNat k =>
    cases n with
    | ofNat l => rw [toString_natCast_inj h]
    | negSucc l => exact absurd h (hminus k l)
  | negSucc k =>
    cases n with
    | ofNat l => exact absurd h.symm (hminus l k)
    | negSucc l =>
      have hdigits : toString (k + 1) = toString (l + 1) := (String.append_right_inj "-").1 h
      rw [Nat.succ.inj (toString_natCast_inj hdigits)]

end Numeral

end PostgresAccess
