import PostgresAccess.Proofs.Version.Grammar

/-!
# Texts of versions

What a version of numbers and identifiers is written as (`render_ofNumbers`), and that it is read
back as the same version, in all of its parts (`parse_render`).  The text has a layout in which
nothing is left out and nothing is put in, so its reading is that of layouts.  Numbers are written
in digits without needless zeros; for a version that was read they are never more digits than are
read (`writable_of_parse`), so writing gives every version that was read one text.

A text of a major and a minor number is read with zero in the third place
(`eq_of_parse_two_numbers`).
-/

namespace PostgresAccess

namespace Version

open Numeral (digitLimit isDigit_of_mem_toString readInteger valueOfRun)

/-! ## Writing -/

theorem joined_text (separator : String) (texts : List String) :
    Value.joined separator (texts.map .text) = .ok (separator.intercalate texts) := by
  have hfind : (texts.map Value.text).zipIdx.find? (fun x => x.1.text?.isNone) = none := by
    rw [List.find?_eq_none]
    rintro ⟨v, place⟩ hv
    obtain ⟨t, -, rfl⟩ := List.mem_map.1 (List.fst_mem_of_mem_zipIdx hv)
    simp [Value.text?]
  have htexts : (texts.map Value.text).filterMap Value.text? = texts := by
    rw [List.filterMap_map]
    exact List.filterMap_some
  simp only [Value.joined, hfind, htexts]

/-- The text of a version of numbers and identifiers. -/
def textOfNumbers (major minor patch : Int) (prerelease build : List String) : String :=
  ".".intercalate [toString major, toString minor, toString patch] ++
    identifiersText "-" prerelease ++ identifiersText "+" build

theorem renderIdentifiers_text (mark : String) (identifiers : List String) :
    renderIdentifiers mark (identifiers.map .text) = .ok (identifiersText mark identifiers) := by
  rw [renderIdentifiers, identifiersText, List.isEmpty_map, joined_text]
  split <;> rfl

/-- Versions of numbers and texts are written unless a number has too many digits. -/
theorem render_ofNumbers (major minor patch : Int) (prerelease build : List String) :
    render (.ofNumbers major minor patch prerelease build) =
      if anyOversized [.int major, .int minor, .int patch] then .error .oversized
      else .ok (textOfNumbers major minor patch prerelease build) := by
  simp only [render, release, ofNumbers, renderIdentifiers_text]
  rfl

/-! ## Numbers -/

theorem isDecimal_of_mem_toString {n : Nat} {c : Char} (hc : c ∈ (toString n).toList) :
    Text.isDecimal c = true := by
  simp [Text.isDecimal, Text.digitValue?_ascii (isDigit_of_mem_toString hc)]

theorem toString_toList_ne_nil (n : Nat) : (toString n).toList ≠ [] := by
  rw [Nat.toString_eq_repr, Nat.toList_repr]
  exact Nat.toDigits_ne_nil

theorem isNumber_toString (n : Nat) : isNumber (toString n).toList = true := by
  have hdecimal : ∀ c ∈ (toString n).toList, Text.isDecimal c = true := fun c hc =>
    isDecimal_of_mem_toString hc
  simpa [isNumber, toString_toList_ne_nil n] using hdecimal

theorem valueOfRun_toString (n : Nat) : valueOfRun (toString n).toList = n := by
  have hdigits : Nat.ofDigitChars 10 (Nat.toDigits 10 n) 0 = n :=
    Nat.ofDigitChars_toDigits (by decide) (by decide)
  have hvalues := filterMap_digitValue? fun c hc => isDigit_of_mem_toString (n := n) hc
  simp only [Nat.ofDigitChars, Nat.mul_comm] at hdigits
  rw [valueOfRun, hvalues, ← Text.ofDigits_eq, Text.ofDigits, digitValues, List.foldl_map,
    Nat.toString_eq_repr, Nat.toList_repr]
  exact hdigits

theorem length_toString_le {n digits : Nat} (hpos : 0 < digits) (h : n < Nat.pow 10 digits) :
    (toString n).toList.length ≤ digits := by
  rw [Nat.toString_eq_repr, Nat.toList_repr]
  exact (Nat.length_toDigits_le_iff (by decide) hpos).2 h

/-- A number below the power is written in no more digits than are read. -/
theorem isRun_toString {n : Nat} (few : n < Nat.pow 10 digitLimit) : IsRun (toString n).toList where
  ne_nil := toString_toList_ne_nil n
  isDecimal _ hc := isDecimal_of_mem_toString hc
  few := length_toString_le (by decide) few

theorem eq_of_readInteger_toString {n : Nat} {k : Int} (h : readInteger (toString n) = .ok k) :
    k = n := by
  have hread := Numeral.readInteger_of_isDecimal (toString_toList_ne_nil n)
    fun c hc => isDecimal_of_mem_toString hc
  rw [String.ofList_toList, valueOfRun_toString, h] at hread
  split at hread
  · cases hread
  · exact Except.ok.inj hread

/-! ## Reading back -/

/-- A version that can be written and read: its numbers are not too long, and its identifiers are
ones. -/
structure Writable where
  major : Nat
  minor : Nat
  patch : Nat
  prerelease : List String
  build : List String
  few : ∀ n ∈ [major, minor, patch], n < Nat.pow 10 digitLimit
  areIdentifiers : ∀ i ∈ prerelease ++ build, isIdentifier i.toList = true

namespace Writable

variable (a : Writable)

/-- The version itself. -/
def version : Version := .ofNumbers a.major a.minor a.patch a.prerelease a.build

/-- The layout of its text: all three numbers, and nothing that could be left out. -/
def layout : Layout where
  before := []
  hasLetter := false
  numbers := [a.major, a.minor, a.patch].map fun n => (toString n).toList
  prerelease := a.prerelease
  build := a.build
  after := []
  areBlank := by simp
  count := by simp
  areRuns run hrun := by
    obtain ⟨n, hn, rfl⟩ := List.mem_map.1 hrun
    exact isRun_toString (a.few n hn)
  areIdentifiers := a.areIdentifiers

theorem version_layout : a.layout.version = a.version := by
  have hmajor : a.layout.number 0 = a.major := valueOfRun_toString a.major
  have hminor : a.layout.number 1 = a.minor := valueOfRun_toString a.minor
  have hpatch : a.layout.number 2 = a.patch := valueOfRun_toString a.patch
  rw [Layout.version, hmajor, hminor, hpatch]
  rfl

theorem anyOversized_numbers : anyOversized [.int a.major, .int a.minor, .int a.patch] = false := by
  have hfew : ∀ n ∈ [a.major, a.minor, a.patch], Numeral.isOversized n = false := fun n hn =>
    Numeral.isOversized_of_lt (a.few n hn) (Nat.le_refl _)
  simpa [anyOversized, Value.hasOversized] using hfew

theorem render_version : a.version.render = .ok a.layout.text := by
  have htext : textOfNumbers a.major a.minor a.patch a.prerelease a.build = a.layout.text := by
    have hdot : ".".toList = ['.'] := rfl
    refine String.toList_inj.1 ?_
    rw [textOfNumbers, String.toList_append, String.toList_append, String.toList_intercalate, hdot]
    simp only [Layout.text, layout, String.toList_ofList, List.append_nil, List.nil_append]
    rfl
  rw [version, render_ofNumbers, a.anyOversized_numbers, htext]
  rfl

theorem parse_layout_text : parse a.layout.text = .ok a.version := by
  rw [parse_text, version_layout]

end Writable

/-- The numbers of a layout are not too long to be written. -/
theorem Layout.number_lt (layout : Layout) (place : Nat) :
    layout.number place < Nat.pow 10 digitLimit := by
  have hpos : ∀ k, 0 < Nat.pow 10 k := fun k => Nat.pow_pos (by decide)
  have hmono : ∀ k l, k ≤ l → Nat.pow 10 k ≤ Nat.pow 10 l := fun _ _ h =>
    Nat.pow_le_pow_right (by decide) h
  unfold Layout.number
  cases hrun : layout.numbers[place]? with
  | none => exact hpos digitLimit
  | some run =>
    have hisRun := layout.areRuns run (List.mem_of_getElem? hrun)
    have hlt := Numeral.valueOfRun_lt hisRun.isDecimal
    exact Nat.lt_of_lt_of_le hlt (hmono _ _ hisRun.few)

theorem writable_of_parse {s : String} {v : Version} (h : parse s = .ok v) :
    ∃ a : Writable, a.version = v := by
  obtain ⟨layout, -, rfl⟩ := exists_layout h
  have few : ∀ n ∈ [layout.number 0, layout.number 1, layout.number 2],
      n < Nat.pow 10 digitLimit := by
    intro n hn
    simp only [List.mem_cons, List.not_mem_nil, or_false] at hn
    rcases hn with rfl | rfl | rfl <;> exact layout.number_lt _
  exact ⟨⟨layout.number 0, layout.number 1, layout.number 2, layout.prerelease, layout.build,
    few, layout.areIdentifiers⟩, rfl⟩

/-- What a version is written as is read as the version.  So every version that was read is written
as one text, which is read as the same version again, and two such texts are the same only if all
parts of the two versions are. -/
theorem parse_render :
    (∀ a : Writable, ∃ text, a.version.render = .ok text ∧ parse text = .ok a.version) ∧
    ∀ s t v w, parse s = .ok v → parse t = .ok w →
      (∃ text, v.render = .ok text ∧ parse text = .ok v) ∧ (v.render = w.render ↔ v = w) := by
  have hback : ∀ a : Writable, ∃ text, a.version.render = .ok text ∧ parse text = .ok a.version :=
    fun a => ⟨a.layout.text, a.render_version, a.parse_layout_text⟩
  refine ⟨hback, ?_⟩
  intro s t v w hs ht
  obtain ⟨a, rfl⟩ := writable_of_parse hs
  obtain ⟨b, rfl⟩ := writable_of_parse ht
  refine ⟨hback a, fun heq => ?_, fun heq => congrArg render heq⟩
  -- equal texts are read as equal versions, and each is read as the version it is written for
  obtain ⟨text, hrender, hparse⟩ := hback a
  obtain ⟨text', hrender', hparse'⟩ := hback b
  rw [hrender, hrender'] at heq
  cases heq
  exact Except.ok.inj (hparse.symm.trans hparse')

/-- Two versions that differ in the digits of an identifier alone are written as two texts. -/
theorem parse_render_padded :
    parse "v07.4-a-b.01+x.-" = .ok (.ofNumbers 7 4 0 ["a-b", "01"] ["x", "-"]) ∧
    parse " 7.4.0-a-b.1+x.- " = .ok (.ofNumbers 7 4 0 ["a-b", "1"] ["x", "-"]) ∧
    (∃ text, (ofNumbers 7 4 0 ["a-b", "01"] ["x", "-"]).render = .ok text ∧
      parse text = .ok (.ofNumbers 7 4 0 ["a-b", "01"] ["x", "-"])) ∧
    ((ofNumbers 7 4 0 ["a-b", "01"] ["x", "-"]).render =
        (ofNumbers 7 4 0 ["a-b", "1"] ["x", "-"]).render ↔
      ofNumbers 7 4 0 ["a-b", "01"] ["x", "-"] = ofNumbers 7 4 0 ["a-b", "1"] ["x", "-"]) := by
  have hs : parse "v07.4-a-b.01+x.-" = .ok (.ofNumbers 7 4 0 ["a-b", "01"] ["x", "-"]) := rfl
  have ht : parse " 7.4.0-a-b.1+x.- " = .ok (.ofNumbers 7 4 0 ["a-b", "1"] ["x", "-"]) := rfl
  exact ⟨hs, ht, parse_render.2 _ _ _ _ hs ht⟩

/-! ## Two numbers -/

theorem cut_of_two_numbers (major minor : Nat) :
    cut (Text.trim (toString major ++ "." ++ toString minor).toList) =
      ⟨[(toString major).toList, (toString minor).toList], [], []⟩ := by
  have hnumbers : ∀ run ∈ [(toString major).toList, (toString minor).toList],
      isNumber run = true := by
    intro run hrun
    simp only [List.mem_cons, List.not_mem_nil, or_false] at hrun
    rcases hrun with rfl | rfl
    · exact isNumber_toString major
    · exact isNumber_toString minor
  have htext : (toString major ++ "." ++ toString minor).toList =
      [] ++ ([] ++ (['.'].intercalate [(toString major).toList, (toString minor).toList] ++
        (identifiersText "-" []).toList ++ (identifiersText "+" []).toList)) ++ [] := by
    simp [List.intercalate, identifiersText]
  rw [htext]
  exact cut_trim (by simp) (.inl rfl) (by simp) hnumbers (by simp)

/-- What is read from a text of a major and a minor number is these two, and no third. -/
theorem eq_of_parse_two_numbers {major minor : Nat} {v : Version}
    (h : parse (toString major ++ "." ++ toString minor) = .ok v) :
    v = .ofNumbers major minor 0 [] [] := by
  rw [parse, cut_of_two_numbers] at h
  simp only [Parts.number, List.getElem?_cons_zero, List.getElem?_cons_succ, List.getElem?_nil,
    String.ofList_toList] at h
  split at h
  · obtain ⟨m, hm, h⟩ := Result.bind_eq_ok.1 h
    obtain ⟨n, hn, h⟩ := Result.bind_eq_ok.1 h
    rw [Result.mapError_eq_ok] at hm hn
    cases h
    rw [eq_of_readInteger_toString hm, eq_of_readInteger_toString hn]
    rfl
  · cases h

end Version

end PostgresAccess
