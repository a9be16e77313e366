import Mathlib.Data.List.Basic
import PostgresAccess.Numeral.Lenient
import PostgresAccess.Proofs.Numeral.Runs
import PostgresAccess.Proofs.Text.Trimming

/-!
# The two ways to read an integer

Texts are read as integers in two ways: strictly (`readInteger`), with digits of any script, and
leniently (`readLenient`), with ASCII digits only but with more around and between them.  Neither
reader takes all that the other one takes, but a text that both take they read as the same number
(`readInteger_eq_readLenient`).

Each reader is compared with what the text says on its face: the number that its digits make up,
whatever stands between them, and negative if there is a minus (`numberIn`).  The strict reader
gives that number.  The lenient one cleans the text step by step, and each step but one keeps the
digits, up to zeros at the start, and the minus (`SaysAlike`).  The exception is the fraction of
zeros, which may be dropped; but a text with a point is not read strictly.
-/

namespace PostgresAccess.Numeral

open Text (asciiDigit? digitValue? isDecimal isSpace)

variable {cs cs' cs'' : List Char} {c : Char}

/-! ## What a text says -/

/-- The number that the digits of a text make up, whatever stands between them; negative if the text
has a minus. -/
def numberIn (cs : List Char) : Int := signed (cs.contains '-') (valueOfRun cs)

/-- Two texts say the same number. -/
structure SaysAlike (cs cs' : List Char) : Prop where
  value : valueOfRun cs = valueOfRun cs'
  minus : '-' ∈ cs ↔ '-' ∈ cs'

/-- A character that says nothing, wherever it stands. -/
structure IsSilent (c : Char) : Prop where
  noDigit : digitValue? c = none
  noMinus : c ≠ '-'

theorem valueOfRun_cons_of_none (h : digitValue? c = none) :
    valueOfRun (c :: cs) = valueOfRun cs := by
  rw [valueOfRun, valueOfRun, List.filterMap_cons_none h]

theorem isSilent_of_isSpace (h : isSpace c = true) : IsSilent c where
  noDigit := by
    rw [← Option.not_isSome_iff_eq_none]
    intro hdecimal
    rw [Text.isSpace_of_isDecimal hdecimal] at h
    cases h
  noMinus := by
    rintro rfl
    cases h

theorem isSilent_plus : IsSilent '+' := ⟨by decide, by decide⟩

theorem isSilent_underscore : IsSilent '_' := ⟨by decide, by decide⟩

namespace SaysAlike

theorem refl (cs : List Char) : SaysAlike cs cs := ⟨rfl, .rfl⟩

theorem symm (h : SaysAlike cs cs') : SaysAlike cs' cs := ⟨h.value.symm, h.minus.symm⟩

theorem trans (h : SaysAlike cs cs') (h' : SaysAlike cs' cs'') : SaysAlike cs cs'' :=
  ⟨h.value.trans h'.value, h.minus.trans h'.minus⟩

theorem numberIn_eq (h : SaysAlike cs cs') : numberIn cs = numberIn cs' := by
  have hminus : cs.contains '-' = cs'.contains '-' := by
    rw [Bool.eq_iff_iff, List.contains_iff_mem, List.contains_iff_mem, h.minus]
  rw [numberIn, numberIn, hminus, h.value]

theorem minus_cons (h : SaysAlike cs cs') : SaysAlike ('-' :: cs) ('-' :: cs') where
  value := by
    have hdigit : digitValue? '-' = none := by decide
    rw [valueOfRun_cons_of_none hdigit, valueOfRun_cons_of_none hdigit, h.value]
  minus := by simp

theorem silent_cons (hc : IsSilent c) (cs : List Char) : SaysAlike (c :: cs) cs where
  value := valueOfRun_cons_of_none hc.noDigit
  minus := by simp [hc.noMinus.symm]

theorem zero_cons (cs : List Char) : SaysAlike ('0' :: cs) cs where
  value := by
    have hdigit : digitValue? '0' = some 0 := by decide
    rw [valueOfRun, valueOfRun, List.filterMap_cons_some hdigit, ← Text.ofDigits_eq,
      ← Text.ofDigits_eq]
    rfl
  minus := by simp

theorem append_left {front : List Char} (h : ∀ c ∈ front, IsSilent c ∨ c = '0')
    (cs : List Char) : SaysAlike (front ++ cs) cs := by
  induction front with
  | nil => exact refl cs
  | cons c front ih =>
    obtain ⟨hc, hfront⟩ := List.forall_mem_cons.1 h
    refine trans ?_ (ih hfront)
    obtain hsilent | rfl := hc
    · exact silent_cons hsilent _
    · exact zero_cons _

theorem append_right {after : List Char} (cs : List Char) (h : ∀ c ∈ after, IsSilent c) :
    SaysAlike (cs ++ after) cs where
  value := by
    have hnone : after.filterMap digitValue? = [] :=
      List.filterMap_eq_nil_iff.2 fun c hc => (h c hc).noDigit
    rw [valueOfRun, valueOfRun, List.filterMap_append, hnone, List.append_nil]
  minus := by
    have hminus : '-' ∉ after := fun hmem => (h '-' hmem).noMinus rfl
    simp [hminus]

end SaysAlike

theorem numberIn_of_sign {negative : Bool} {body : List Char} (hminus : '-' ∉ body)
    (h : SaysAlike cs (if negative then '-' :: body else body)) :
    numberIn cs = signed negative (valueOfRun body) := by
  rw [h.numberIn_eq, numberIn]
  cases negative with
  | true =>
    have hdigit : digitValue? '-' = none := by decide
    simp [valueOfRun_cons_of_none hdigit]
  | false => simp [hminus]

/-! ## Blanks and signs -/

/-- Whatever a class of characters that say nothing is dropped at the start. -/
theorem saysAlike_dropWhile {p : Char → Bool} (h : ∀ c, p c = true → IsSilent c ∨ c = '0')
    (cs : List Char) : SaysAlike cs (cs.dropWhile p) := by
  have hfront : SaysAlike (cs.takeWhile p ++ cs.dropWhile p) (cs.dropWhile p) :=
    .append_left (fun c hc => h c (List.mem_takeWhile_imp hc)) _
  rw [List.takeWhile_append_dropWhile] at hfront
  exact hfront

theorem saysAlike_trimBy (cs : List Char) : SaysAlike cs (Text.trimBy isSpace cs) := by
  obtain ⟨before, after, hcut, hblank⟩ := Text.exists_blanks isSpace cs
  generalize Text.trimBy isSpace cs = body at hcut
  have hsilent : ∀ c ∈ before ++ after, IsSilent c := fun c hc => isSilent_of_isSpace (hblank c hc)
  obtain ⟨hbefore, hafter⟩ := List.forall_mem_append.1 hsilent
  rw [hcut, List.append_assoc]
  exact (SaysAlike.append_left (fun c hc => .inl (hbefore c hc)) _).trans
    (.append_right body hafter)

theorem saysAlike_of_splitSign {negative : Bool} {body : List Char}
    (h : splitSign cs = (negative, body)) :
    SaysAlike cs (if negative then '-' :: body else body) := by
  unfold splitSign at h
  split at h <;> cases h
  · exact .refl _
  · exact .silent_cons isSilent_plus _
  · exact .refl _

theorem mem_splitSign_iff {negative : Bool} {body : List Char}
    (h : splitSign cs = (negative, body)) (hminus : c ≠ '-') (hplus : c ≠ '+') :
    c ∈ cs ↔ c ∈ body := by
  unfold splitSign at h
  split at h <;> cases h
  · simp [hminus]
  · simp [hplus]
  · rfl

/-! ## The strict reader -/

/-- What is read strictly: blanks, perhaps a sign, a run, and blanks again. -/
theorem layout_of_readInteger {text : String} {n : Int} (h : readInteger text = .ok n) :
    ∃ negative run after, splitSign (text.toList.dropWhile isSpace) = (negative, run ++ after) ∧
      (∀ c ∈ run, isDecimal c = true ∨ c = '_') ∧ (∀ c ∈ after, isSpace c = true) ∧
      n = signed negative (valueOfRun run) := by
  cases hsign : splitSign (text.toList.dropWhile isSpace) with
  | mk negative body =>
    simp only [readInteger, hsign] at h
    split at h
    · cases h
    · rename_i digits after hdigits
      obtain ⟨run, rfl, rfl, hrun⟩ := run_of_digitRun hdigits
      split at h
      · cases h
      · split at h
        · rename_i hafter
          cases h
          refine ⟨negative, run, after, rfl, hrun, List.all_eq_true.1 hafter, ?_⟩
          rw [Text.ofDigits_eq, valueOfRun]
        · cases h

theorem not_mem_of_run {run after : List Char} (hrun : ∀ c ∈ run, isDecimal c = true ∨ c = '_')
    (hafter : ∀ c ∈ after, isSpace c = true) (hdecimal : isDecimal c = false)
    (hspace : isSpace c = false) (hmark : c ≠ '_') : c ∉ run ++ after := by
  intro hmem
  rcases List.mem_append.1 hmem with hc | hc
  · rcases hrun c hc with h | h
    · rw [hdecimal] at h
      cases h
    · exact hmark h
  · rw [hafter c hc] at hspace
    cases hspace

theorem numberIn_of_readInteger {text : String} {n : Int} (h : readInteger text = .ok n) :
    n = numberIn text.toList := by
  obtain ⟨negative, run, after, hsign, hrun, hafter, rfl⟩ := layout_of_readInteger h
  have hminus : '-' ∉ run ++ after :=
    not_mem_of_run hrun hafter (by decide) (by decide) (by decide)
  have hafter' : ∀ c ∈ after, IsSilent c := fun c hc => isSilent_of_isSpace (hafter c hc)
  have hfront := saysAlike_dropWhile (fun c hc => .inl (isSilent_of_isSpace hc)) text.toList
  rw [numberIn_of_sign hminus (hfront.trans (saysAlike_of_splitSign hsign)),
    (SaysAlike.append_right run hafter').value]

theorem point_not_mem_of_readInteger {text : String} {n : Int} (h : readInteger text = .ok n) :
    '.' ∉ text.toList := by
  obtain ⟨negative, run, after, hsign, hrun, hafter, rfl⟩ := layout_of_readInteger h
  have hbody : '.' ∉ run ++ after :=
    not_mem_of_run hrun hafter (by decide) (by decide) (by decide)
  have hrest : '.' ∉ text.toList.dropWhile isSpace :=
    mt (mem_splitSign_iff hsign (by decide) (by decide)).1 hbody
  rw [← List.takeWhile_append_dropWhile (p := isSpace) (l := text.toList), List.mem_append, not_or]
  refine ⟨fun hmem => ?_, hrest⟩
  have hspace := List.mem_takeWhile_imp hmem
  cases hspace

/-! ## The lenient reader -/

theorem isDigit_of_isLeadingDigit (h : isLeadingDigit c = true) : c.isDigit = true := by
  simp only [isLeadingDigit, Bool.and_eq_true, decide_eq_true_eq, Char.le_def,
    UInt32.le_iff_toNat_le] at h
  have hlow : '0'.val.toNat ≤ '1'.val.toNat := by decide
  simp only [Char.isDigit, Bool.and_eq_true, decide_eq_true_eq, UInt32.le_iff_toNat_le]
  exact ⟨hlow.trans h.1, h.2⟩

/-- Plain digits that make up a whole text are the text, and ASCII digits. -/
theorem eq_of_plainDigits (h : (plainDigits cs).length = cs.length) :
    plainDigits cs = cs ∧ ∀ c ∈ cs, c.isDigit = true := by
  cases cs with
  | nil => exact ⟨rfl, by simp⟩
  | cons c rest =>
    rw [plainDigits] at h ⊢
    split at h
    · rename_i hzero
      have hrest : rest = [] := by
        rw [← List.length_eq_zero_iff]
        simpa using h
      subst hzero hrest
      simp
    · rename_i hzero
      split at h
      · rename_i hleading
        -- the digits are taken from the front, so as many as there are characters are all of them
        have hall : rest.takeWhile Char.isDigit = rest :=
          (List.takeWhile_prefix Char.isDigit).eq_of_length (by simpa using h)
        rw [if_neg hzero, if_pos hleading, hall]
        exact ⟨rfl, List.forall_mem_cons.2
          ⟨isDigit_of_isLeadingDigit hleading, List.takeWhile_eq_self_iff.1 hall⟩⟩
      · simp at h

/-- What is read as a plain integer: perhaps a minus, and then plain digits alone. -/
theorem layout_of_readPlain {n : Int} (h : readPlain cs = .ok n) :
    ∃ negative body, cs = (if negative then '-' :: body else body) ∧
      (∀ c ∈ body, c.isDigit = true) ∧
        n = signed negative (Text.ofDigits 10 (body.filterMap asciiDigit?)) := by
  unfold readPlain at h
  split at h
  rename_i negative body hsign
  have hcs : cs = (if negative then '-' :: body else body) := by
    split at hsign <;> cases hsign <;> rfl
  simp only at h
  -- the sign counts for the size, but which sign it is does not matter here
  generalize (plainDigits body).length + (if negative then 1 else 0) = size at h
  split at h
  · cases h
  · split at h
    · cases h
    · split at h
      · rename_i hlength
        obtain ⟨hdigits, hall⟩ := eq_of_plainDigits hlength
        rw [hdigits] at h
        cases h
        exact ⟨negative, body, hcs, hall, rfl⟩
      · cases h

theorem numberIn_of_readPlain {n : Int} (h : readPlain cs = .ok n) : n = numberIn cs := by
  obtain ⟨negative, body, hcs, hdigits, rfl⟩ := layout_of_readPlain h
  have hminus : '-' ∉ body := fun hmem => by cases hdigits '-' hmem
  have hvalues : body.filterMap asciiDigit? = body.filterMap digitValue? :=
    List.filterMap_congr fun c hc => by
      rw [Text.digitValue?_ascii (hdigits c hc), asciiDigit?, if_pos (hdigits c hc)]
  have halike : SaysAlike cs (if negative then '-' :: body else body) := hcs ▸ .refl cs
  rw [numberIn_of_sign hminus halike, hvalues, Text.ofDigits_eq, valueOfRun]

/-- Zeros and underscores at the start count for nothing, and if there is nothing else, the last of
them counts for nothing either. -/
theorem saysAlike_dropLeadingZeros (h : dropLeadingZeros cs = some cs') : SaysAlike cs cs' := by
  have hidle : ∀ c, (c == '0' || c == '_') = true → IsSilent c ∨ c = '0' := by
    intro c hc
    rcases Bool.or_eq_true_iff.1 hc with hzero | hmark
    · exact .inr (beq_iff_eq.1 hzero)
    · rw [beq_iff_eq.1 hmark]
      exact .inl isSilent_underscore
  cases cs with
  | nil => cases h
  | cons c rest =>
    rw [dropLeadingZeros] at h
    split at h
    · rename_i hzero
      subst hzero
      refine (SaysAlike.zero_cons rest).trans ?_
      have hdrop := saysAlike_dropWhile hidle rest
      split at h
      -- nothing is left but a zero, or the last of the zeros and marks, which says as little
      · rename_i hnil
        cases h
        have hlast : SaysAlike [rest.getLast?.getD '0'] [] := by
          have hall := (Text.dropWhile_eq_nil_iff _ rest).1 hnil
          cases hlast : rest.getLast? with
          | none => exact .zero_cons []
          | some c =>
            have hc : ∀ d ∈ [c], IsSilent d ∨ d = '0' := by
              simpa using hidle c (hall c (List.mem_of_getLast? hlast))
            exact .append_left hc []
        rw [hnil] at hdrop
        exact hdrop.trans hlast.symm
      · rename_i next later hnext
        rw [hnext] at hdrop
        split at h
        · cases h
          exact hdrop
        · cases h
    · split at h
      · cases h
        exact .refl _
      · cases h

theorem saysAlike_dropUnderscores (h : dropUnderscores cs = some cs') : SaysAlike cs cs' := by
  rw [dropUnderscores] at h
  split at h
  · cases h
  · cases h
    refine ⟨?_, by simp⟩
    have hvalues : (cs.filter (· ≠ '_')).filterMap digitValue? = cs.filterMap digitValue? := by
      rw [List.filterMap_filter]
      refine List.filterMap_congr fun c _ => ?_
      by_cases hc : c = '_'
      · rw [hc]
        decide
      · simp [hc]
    rw [valueOfRun, valueOfRun, hvalues]

theorem dropZeroFraction_of_not_mem (h : '.' ∉ cs) : dropZeroFraction cs = cs := by
  rw [dropZeroFraction]
  split
  · rename_i number _ hdrop
    have hpoint : '.' ∈ cs.reverse.dropWhile (· == '0') := by
      rw [hdrop]
      exact .head _
    exact absurd (List.mem_reverse.1 ((List.dropWhile_sublist _).subset hpoint)) h
  · rfl

theorem saysAlike_cleaned (hpoint : '.' ∉ cs) (h : cleaned cs = some cs') : SaysAlike cs cs' := by
  rw [cleaned] at h
  -- the body is cleaned without the sign, which is put back at the end
  cases hsign : splitSign (Text.trimBy isSpace cs) with
  | mk negative body =>
    have hfront := (saysAlike_trimBy cs).trans (saysAlike_of_splitSign hsign)
    have hbody : '.' ∉ body := by
      obtain ⟨before, after, hcut, -⟩ := Text.exists_blanks isSpace cs
      have htrim : '.' ∉ Text.trimBy isSpace cs := by
        intro hmem
        rw [hcut] at hpoint
        simp [hmem] at hpoint
      exact mt (mem_splitSign_iff hsign (by decide) (by decide)).2 htrim
    simp only [hsign] at h
    split at h
    · cases h
    · rw [dropZeroFraction_of_not_mem hbody] at h
      obtain ⟨number, hnumber, hresult⟩ := Option.bind_eq_some_iff.1 h
      obtain ⟨stripped, hstripped, hmarks⟩ := Option.bind_eq_some_iff.1 hnumber
      have hbodies : SaysAlike body number :=
        (saysAlike_dropLeadingZeros hstripped).trans (saysAlike_dropUnderscores hmarks)
      refine hfront.trans ?_
      cases hresult
      cases negative with
      | true => exact hbodies.minus_cons
      | false => exact hbodies

theorem numberIn_of_readLenient {text : String} {n : Int} (hpoint : '.' ∉ text.toList)
    (h : readLenient text = .ok n) : n = numberIn text.toList := by
  rw [readLenient] at h
  split at h
  · rename_i n hplain
    cases h
    exact numberIn_of_readPlain hplain
  · cases h
  · split at h
    · rename_i n hcleaned
      cases h
      obtain ⟨number, hnumber, hplain⟩ := Option.map_eq_some_iff.1 hcleaned
      rw [(saysAlike_cleaned hpoint hnumber).numberIn_eq]
      exact numberIn_of_readPlain hplain
    · cases h

/-- What both readers take, they read as the same number. -/
theorem readInteger_eq_readLenient {text : String} {n m : Int} (hn : readInteger text = .ok n)
    (hm : readLenient text = .ok m) : n = m :=
  (numberIn_of_readInteger hn).trans
    (numberIn_of_readLenient (point_not_mem_of_readInteger hn) hm).symm

-- each reader takes texts that the other one refuses
example : readInteger "٣" = .ok 3 ∧ readLenient "٣" = .error .malformed ∧
    readLenient "0__3.0" = .ok 3 ∧ readInteger "0__3.0" = .error (.malformed "0__3.0") := by
  decide +kernel

end PostgresAccess.Numeral
