import PostgresAccess.Failure
import PostgresAccess.Proofs.Text.Trimming
import PostgresAccess.Proofs.Version.Identifier

/-!
# The grammar of version texts

A `Layout` is a version text taken apart: the blanks around it, the letter that may come first, one
to three runs of digits, and the identifiers of the prerelease and of the build.  `Layout.text` puts
the parts together again, and `Layout.version` is the version that they spell.  The main result is
that reading accepts the texts of layouts and no others, and gives the versions that they spell
(`parse_grammar`).

Reading cuts a text at the first occurrences of its marks.  In the text of a layout these are the
marks between its parts, because the marks occur in no earlier part (`cut_trim`); and whatever the
text, the pieces that it is cut into make it up (`exists_cut`).  So a text whose pieces are in order
has a layout (`exists_layout`).
-/

namespace PostgresAccess

namespace Version

open Numeral (digitLimit readInteger)

/-! ## Cutting -/

theorem splitAtMark_eq_splitOn (mark : Char) (cs : List Char) :
    splitAtMark mark cs = cs.splitOn mark := by
  induction cs with
  | nil => rfl
  | cons c rest ih =>
    rw [List.splitOn, List.splitOnP_cons_eq_if_modifyHead, ← List.splitOn, ← ih, splitAtMark]
    by_cases hc : c = mark
    · simp [hc]
    · cases hparts : splitAtMark mark rest with
      | nil =>
        rw [ih] at hparts
        exact absurd hparts (List.splitOn_ne_nil mark rest)
      | cons part parts => simp [hc]

/-- What comes from a mark on: nothing if there is no mark. -/
def StartsAt (mark : Char) (cs : List Char) : Prop := cs = [] ∨ ∃ rest, cs = mark :: rest

section Marks

variable {mark : Char} {before after : List Char}

theorem forall_ne_of_not_mem (hbefore : mark ∉ before) : ∀ c ∈ before, decide (c ≠ mark) = true :=
  fun _ hc => decide_eq_true (ne_of_mem_of_not_mem hc hbefore)

theorem takeWhile_of_startsAt (hbefore : mark ∉ before) (hafter : StartsAt mark after) :
    (before ++ after).takeWhile (· ≠ mark) = before := by
  rw [List.takeWhile_append_of_pos (forall_ne_of_not_mem hbefore)]
  rcases hafter with rfl | ⟨rest, rfl⟩ <;> simp

theorem dropWhile_of_startsAt (hbefore : mark ∉ before) (hafter : StartsAt mark after) :
    (before ++ after).dropWhile (· ≠ mark) = after := by
  rw [List.dropWhile_append_of_pos (forall_ne_of_not_mem hbefore)]
  rcases hafter with rfl | ⟨rest, rfl⟩ <;> simp

theorem startsAt_dropWhile (mark : Char) (cs : List Char) :
    StartsAt mark (cs.dropWhile (· ≠ mark)) := by
  induction cs with
  | nil => exact .inl rfl
  | cons c rest ih =>
    by_cases hc : c = mark
    · exact .inr ⟨rest, by simp [hc]⟩
    · simpa [hc] using ih

end Marks

/-- The letter that may come first. -/
def IsLetter (letter : List Char) : Prop := letter = [] ∨ letter = ['v']

/-- A text is cut at its first plus sign, and what comes before it at its first hyphen. -/
theorem cut_append {letter numbers prerelease build : List Char} (hletter : IsLetter letter)
    (hnumbers : ∀ c ∈ numbers, Text.isDecimal c = true ∨ c = '.')
    (hprerelease : StartsAt '-' prerelease) (hplus : '+' ∉ prerelease)
    (hbuild : StartsAt '+' build) :
    cut (letter ++ (numbers ++ prerelease ++ build)) =
      ⟨splitAtMark '.' numbers, identifiersAfter '-' prerelease, identifiersAfter '+' build⟩ := by
  have habsent : ∀ mark, Text.isDecimal mark = false → mark ≠ '.' → mark ∉ numbers := by
    intro mark hdecimal hdot hmem
    rcases hnumbers mark hmem with h | h
    · rw [hdecimal] at h
      cases h
    · exact hdot h
  have hnumbersPlus : '+' ∉ numbers := habsent '+' (by decide) (by decide)
  have hnumbersHyphen : '-' ∉ numbers := habsent '-' (by decide) (by decide)
  have hnumbersLetter : 'v' ∉ numbers := habsent 'v' (by decide) (by decide)
  have hbeforeBuild : '+' ∉ numbers ++ prerelease := by simp [hnumbersPlus, hplus]
  have htakeBuild := takeWhile_of_startsAt hbeforeBuild hbuild
  have hdropBuild := dropWhile_of_startsAt hbeforeBuild hbuild
  have htakeNumbers := takeWhile_of_startsAt hnumbersHyphen hprerelease
  have hdropNumbers := dropWhile_of_startsAt hnumbersHyphen hprerelease
  -- without the letter, no part starts with it
  have hfirst : ∀ rest, numbers ++ prerelease ++ build ≠ 'v' :: rest := by
    intro rest heq
    cases numbers with
    | cons c numbers =>
      have hc : c = 'v' := (List.cons.inj heq).1
      exact hnumbersLetter (hc ▸ List.mem_cons_self)
    | nil =>
      rcases hprerelease with rfl | ⟨_, rfl⟩ <;> rcases hbuild with rfl | ⟨_, rfl⟩ <;> cases heq
  rcases hletter with rfl | rfl
  · unfold cut
    split
    · rename_i heq
      exact absurd heq (hfirst _)
    · simp only [List.nil_append, htakeBuild, hdropBuild, htakeNumbers, hdropNumbers]
  · simp only [cut, List.cons_append, List.nil_append, htakeBuild, hdropBuild, htakeNumbers,
      hdropNumbers]

/-- The pieces that a text is cut into make it up. -/
theorem exists_cut (cs : List Char) :
    ∃ letter numbers prerelease build, cs = letter ++ (numbers ++ prerelease ++ build) ∧
      IsLetter letter ∧ StartsAt '-' prerelease ∧ StartsAt '+' build ∧
      cut cs =
        ⟨splitAtMark '.' numbers, identifiersAfter '-' prerelease, identifiersAfter '+' build⟩ := by
  have hpieces : ∀ body : List Char, body =
      (body.takeWhile (· ≠ '+')).takeWhile (· ≠ '-') ++
        (body.takeWhile (· ≠ '+')).dropWhile (· ≠ '-') ++ body.dropWhile (· ≠ '+') := by
    intro body
    rw [List.takeWhile_append_dropWhile, List.takeWhile_append_dropWhile]
  unfold cut
  split
  · rename_i rest
    exact ⟨['v'], _, _, _, congrArg ('v' :: ·) (hpieces rest), .inr rfl,
      startsAt_dropWhile _ _, startsAt_dropWhile _ _, rfl⟩
  · exact ⟨[], _, _, _, hpieces cs, .inl rfl, startsAt_dropWhile _ _, startsAt_dropWhile _ _, rfl⟩

/-! ## Layouts -/

/-- Identifiers with dots between them after a mark; nothing if there are none. -/
def identifiersText (mark : String) (identifiers : List String) : String :=
  if identifiers.isEmpty then "" else mark ++ ".".intercalate identifiers

/-- A run of decimal digits that is not too long to be read. -/
structure IsRun (run : List Char) : Prop where
  ne_nil : run ≠ []
  isDecimal : ∀ c ∈ run, Text.isDecimal c = true
  few : run.length ≤ digitLimit

/-- A version text taken apart. -/
structure Layout where
  before : List Char
  hasLetter : Bool
  /-- The runs of digits of the release. -/
  numbers : List (List Char)
  prerelease : List String
  build : List String
  after : List Char
  areBlank : ∀ c ∈ before ++ after, Text.isBlank c = true
  count : 1 ≤ numbers.length ∧ numbers.length ≤ 3
  areRuns : ∀ run ∈ numbers, IsRun run
  areIdentifiers : ∀ i ∈ prerelease ++ build, isIdentifier i.toList = true

namespace Layout

variable (layout : Layout)

/-- The text with its parts put together. -/
def text : String := String.ofList
  (layout.before ++ ((if layout.hasLetter then ['v'] else []) ++
    (['.'].intercalate layout.numbers ++ (identifiersText "-" layout.prerelease).toList ++
      (identifiersText "+" layout.build).toList)) ++ layout.after)

/-- The number that a run of the release denotes, zero if the run is missing. -/
def number (place : Nat) : Nat := (layout.numbers[place]?.map Numeral.valueOfRun).getD 0

/-- The version that is spelled. -/
def version : Version :=
  .ofNumbers (layout.number 0) (layout.number 1) (layout.number 2) layout.prerelease layout.build

end Layout

/-! ## Cutting the text of a layout -/

theorem mem_of_mem_intercalate {c mark : Char} {parts : List (List Char)}
    (h : c ∈ [mark].intercalate parts) : c = mark ∨ ∃ part ∈ parts, c ∈ part := by
  induction parts with
  | nil => cases h
  | cons part parts ih =>
    by_cases hparts : parts = []
    · subst hparts
      rw [List.intercalate_singleton] at h
      exact .inr ⟨part, .head _, h⟩
    · rw [List.intercalate_cons_of_ne_nil hparts, List.mem_append, List.mem_append,
        List.mem_singleton] at h
      rcases h with (h | h) | h
      · exact .inr ⟨part, .head _, h⟩
      · exact .inl h
      · rcases ih h with hmark | ⟨other, hother, hc⟩
        · exact .inl hmark
        · exact .inr ⟨other, .tail _ hother, hc⟩

theorem splitAtMark_intercalate {mark : Char} {parts : List (List Char)} (hne : parts ≠ [])
    (h : ∀ part ∈ parts, mark ∉ part) : splitAtMark mark ([mark].intercalate parts) = parts := by
  rw [splitAtMark_eq_splitOn]
  exact List.splitOn_intercalate mark h hne

theorem intercalate_splitAtMark (mark : Char) (cs : List Char) :
    [mark].intercalate (splitAtMark mark cs) = cs := by
  rw [splitAtMark_eq_splitOn]
  exact List.intercalate_splitOn mark

theorem not_mem_of_isIdentifier {i : String} (h : isIdentifier i.toList = true) {mark : Char}
    (hmark : isIdentifierChar mark = false) : mark ∉ i.toList := by
  intro hmem
  have hchar := (forall_of_isIdentifier h).2 mark hmem
  rw [hmark] at hchar
  cases hchar

section Identifiers

variable {mark : String} {c : Char} {is : List String}

theorem toList_identifiersText (hmark : mark.toList = [c]) (hne : is ≠ []) :
    (identifiersText mark is).toList = c :: ['.'].intercalate (is.map String.toList) := by
  have hdot : ".".toList = ['.'] := rfl
  rw [identifiersText, if_neg (by simpa using hne), String.toList_append, hmark,
    String.toList_intercalate, hdot]
  rfl

theorem startsAt_identifiersText (hmark : mark.toList = [c]) (is : List String) :
    StartsAt c (identifiersText mark is).toList := by
  by_cases hne : is = []
  · subst hne
    exact .inl rfl
  · exact .inr ⟨_, toList_identifiersText hmark hne⟩

theorem identifiersAfter_identifiersText (hmark : mark.toList = [c])
    (his : ∀ i ∈ is, isIdentifier i.toList = true) :
    identifiersAfter c (identifiersText mark is).toList = is.map String.toList := by
  by_cases hne : is = []
  · subst hne
    rfl
  · have hdot : ∀ part ∈ is.map String.toList, '.' ∉ part := by
      intro part hpart
      obtain ⟨i, hi, rfl⟩ := List.mem_map.1 hpart
      exact not_mem_of_isIdentifier (his i hi) (by decide)
    rw [toList_identifiersText hmark hne, identifiersAfter, if_pos rfl,
      splitAtMark_intercalate (by simpa using hne) hdot]

theorem mem_identifiersText (hmark : mark.toList = [c])
    (his : ∀ i ∈ is, isIdentifier i.toList = true) {d : Char}
    (hd : d ∈ (identifiersText mark is).toList) :
    d = c ∨ d = '.' ∨ isIdentifierChar d = true := by
  by_cases hne : is = []
  · subst hne
    cases hd
  · rw [toList_identifiersText hmark hne, List.mem_cons] at hd
    rcases hd with hd | hd
    · exact .inl hd
    · rcases mem_of_mem_intercalate hd with hdot | ⟨part, hpart, hdpart⟩
      · exact .inr (.inl hdot)
      · obtain ⟨i, hi, rfl⟩ := List.mem_map.1 hpart
        exact .inr (.inr ((forall_of_isIdentifier (his i hi)).2 d hdpart))

end Identifiers

theorem forall_of_isNumber {run : List Char} (h : isNumber run = true) :
    run ≠ [] ∧ ∀ c ∈ run, Text.isDecimal c = true := by
  simpa [isNumber] using h

theorem IsRun.isNumber {run : List Char} (h : IsRun run) : isNumber run = true := by
  simpa [Version.isNumber] using And.intro h.ne_nil h.isDecimal

theorem mem_numbers {numbers : List (List Char)} (h : ∀ run ∈ numbers, isNumber run = true)
    {c : Char} (hc : c ∈ ['.'].intercalate numbers) : Text.isDecimal c = true ∨ c = '.' := by
  rcases mem_of_mem_intercalate hc with hdot | ⟨run, hrun, hcrun⟩
  · exact .inr hdot
  · exact .inl ((forall_of_isNumber (h run hrun)).2 c hcrun)

section CutTrim

variable {before letter after : List Char} {numbers : List (List Char)}
  {prerelease build : List String}

theorem isBlank_of_mem (hletter : IsLetter letter)
    (hnumbers : ∀ run ∈ numbers, isNumber run = true)
    (hidentifiers : ∀ i ∈ prerelease ++ build, isIdentifier i.toList = true) :
    ∀ c ∈ letter ++ (['.'].intercalate numbers ++ (identifiersText "-" prerelease).toList ++
      (identifiersText "+" build).toList), Text.isBlank c = false := by
  obtain ⟨hpre, hbuild⟩ := List.forall_mem_append.1 hidentifiers
  intro c hc
  have hidentifierChar : isIdentifierChar c = true → Text.isBlank c = false := by
    intro h
    obtain ⟨low, high⟩ := toNat_of_isIdentifierChar h
    exact Text.isBlank_eq_false low high
  simp only [List.mem_append] at hc
  rcases hc with hc | (hc | hc) | hc
  · rcases hletter with rfl | rfl
    · cases hc
    · obtain rfl := List.mem_singleton.1 hc
      decide
  · rcases mem_numbers hnumbers hc with h | rfl
    · exact Text.isBlank_of_isDecimal h
    · decide
  · rcases mem_identifiersText (c := '-') rfl hpre hc with rfl | rfl | h
    · decide
    · decide
    · exact hidentifierChar h
  · rcases mem_identifiersText (c := '+') rfl hbuild hc with rfl | rfl | h
    · decide
    · decide
    · exact hidentifierChar h

/-- A version text is cut into its parts, however long its numbers are. -/
theorem cut_trim (hblank : ∀ c ∈ before ++ after, Text.isBlank c = true)
    (hletter : IsLetter letter) (hne : numbers ≠ [])
    (hnumbers : ∀ run ∈ numbers, isNumber run = true)
    (hidentifiers : ∀ i ∈ prerelease ++ build, isIdentifier i.toList = true) :
    cut (Text.trim (before ++ (letter ++ (['.'].intercalate numbers ++
        (identifiersText "-" prerelease).toList ++ (identifiersText "+" build).toList)) ++ after)) =
      ⟨numbers, prerelease.map String.toList, build.map String.toList⟩ := by
  obtain ⟨hbefore, hafter⟩ := List.forall_mem_append.1 hblank
  obtain ⟨hpre, hbuild⟩ := List.forall_mem_append.1 hidentifiers
  -- the prerelease must not hold the mark at which the build metadata is cut off first
  have hplus : '+' ∉ (identifiersText "-" prerelease).toList := by
    intro hmem
    rcases mem_identifiersText (c := '-') rfl hpre hmem with h | h | h <;> revert h <;> decide
  have hdot : ∀ run ∈ numbers, '.' ∉ run := by
    intro run hrun hmem
    exact absurd ((forall_of_isNumber (hnumbers run hrun)).2 '.' hmem) (by decide)
  rw [Text.trim, Text.trimBy_append hbefore (isBlank_of_mem hletter hnumbers hidentifiers) hafter,
    cut_append hletter (fun c hc => mem_numbers hnumbers hc)
      (startsAt_identifiersText rfl prerelease) hplus (startsAt_identifiersText rfl build),
    splitAtMark_intercalate hne hdot, identifiersAfter_identifiersText rfl hpre,
    identifiersAfter_identifiersText rfl hbuild]

end CutTrim

/-! ## Numbers of a release -/

section Numbers

variable {parts : Parts} {place : Nat}

theorem number_of_areRuns (parts : Parts) (h : ∀ run ∈ parts.numbers, IsRun run) (place : Nat) :
    parts.number place =
      .ok ((parts.numbers[place]?.map Numeral.valueOfRun).getD 0 : Nat) := by
  unfold Parts.number
  cases hrun : parts.numbers[place]? with
  | none => rfl
  | some run =>
    have hisRun := h run (List.mem_of_getElem? hrun)
    have hread := Numeral.readInteger_of_isDecimal hisRun.ne_nil hisRun.isDecimal
    rw [if_neg (Nat.not_lt.2 hisRun.few)] at hread
    simp only [hread]
    rfl

theorem isRun_of_number {run : List Char} {n : Int} (hnumber : isNumber run = true)
    (hrun : parts.numbers[place]? = some run) (h : parts.number place = .ok n) : IsRun run := by
  obtain ⟨hne, hdecimal⟩ := forall_of_isNumber hnumber
  have hread := Numeral.readInteger_of_isDecimal hne hdecimal
  unfold Parts.number at h
  simp only [hrun, Result.mapError_eq_ok] at h
  rw [hread] at h
  split at h
  · cases h
  · rename_i hfew
    exact ⟨hne, hdecimal, Nat.not_lt.1 hfew⟩

/-- Numbers that are all read are runs, of which there are not more than are asked for. -/
theorem areRuns_of_numbers {major minor patch : Int} (hcount : parts.numbers.length ≤ 3)
    (hnumbers : parts.numbers.all isNumber = true) (hmajor : parts.number 0 = .ok major)
    (hminor : parts.number 1 = .ok minor) (hpatch : parts.number 2 = .ok patch) :
    ∀ run ∈ parts.numbers, IsRun run := by
  intro run hrun
  have hnumber := List.all_eq_true.1 hnumbers run hrun
  obtain ⟨place, hplace, rfl⟩ := List.getElem_of_mem hrun
  have hfound := List.getElem?_eq_getElem hplace
  have hthree : place = 0 ∨ place = 1 ∨ place = 2 := by omega
  rcases hthree with rfl | rfl | rfl
  · exact isRun_of_number hnumber hfound hmajor
  · exact isRun_of_number hnumber hfound hminor
  · exact isRun_of_number hnumber hfound hpatch

end Numbers

/-! ## Reading -/

theorem isLetter_ite (b : Bool) : IsLetter (if b then ['v'] else []) := by
  cases b
  · exact .inl rfl
  · exact .inr rfl

theorem exists_ite_of_isLetter {letter : List Char} (h : IsLetter letter) :
    ∃ b : Bool, letter = if b then ['v'] else [] := by
  rcases h with rfl | rfl
  · exact ⟨false, rfl⟩
  · exact ⟨true, rfl⟩

/-- The text of a layout is read as the version that it spells. -/
theorem parse_text (layout : Layout) : parse layout.text = .ok layout.version := by
  have hne : layout.numbers ≠ [] := List.length_pos_iff.1 layout.count.1
  have hnumbers : ∀ run ∈ layout.numbers, isNumber run = true := fun run hrun =>
    (layout.areRuns run hrun).isNumber
  have hcut := cut_trim layout.areBlank (isLetter_ite layout.hasLetter) hne hnumbers
    layout.areIdentifiers
  have hwellFormed : Parts.areWellFormed ⟨layout.numbers, layout.prerelease.map String.toList,
      layout.build.map String.toList⟩ = true := by
    have hidentifiers := List.forall_mem_append.1 layout.areIdentifiers
    simpa [Parts.areWellFormed, layout.count.2, and_assoc] using
      And.intro hnumbers hidentifiers
  have hnumber := number_of_areRuns ⟨layout.numbers, layout.prerelease.map String.toList,
      layout.build.map String.toList⟩ layout.areRuns
  rw [parse, Layout.text, String.toList_ofList, hcut]
  simp only [hwellFormed, if_true, hnumber, List.map_map, Function.comp_def, String.ofList_toList,
    List.map_id']
  rfl

theorem exists_identifiers {c : Char} {cs : List Char} (mark : String)
    (hmark : mark.toList = [c]) (hcs : StartsAt c cs)
    (h : (identifiersAfter c cs).all isIdentifier = true) :
    (∀ i ∈ (identifiersAfter c cs).map String.ofList, isIdentifier i.toList = true) ∧
      cs = (identifiersText mark ((identifiersAfter c cs).map String.ofList)).toList := by
  constructor
  · intro i hi
    obtain ⟨part, hpart, rfl⟩ := List.mem_map.1 hi
    rw [String.toList_ofList]
    exact List.all_eq_true.1 h part hpart
  · rcases hcs with rfl | ⟨rest, rfl⟩
    · rfl
    · have hafter : identifiersAfter c (c :: rest) = splitAtMark '.' rest := if_pos rfl
      have hne : (splitAtMark '.' rest).map String.ofList ≠ [] := by
        rw [splitAtMark_eq_splitOn, Ne, List.map_eq_nil_iff]
        exact List.splitOn_ne_nil '.' rest
      have hparts : ((splitAtMark '.' rest).map String.ofList).map String.toList =
          splitAtMark '.' rest := by
        simp [Function.comp_def]
      rw [hafter, toList_identifiersText hmark hne, hparts, intercalate_splitAtMark]

/-- Every text that is read as a version has a layout that spells it. -/
theorem exists_layout {text : String} {v : Version} (h : parse text = .ok v) :
    ∃ layout : Layout, layout.text = text ∧ layout.version = v := by
  obtain ⟨before, after, htext, hblank⟩ := Text.exists_blanks Text.isBlank text.toList
  obtain ⟨letter, numbers, prerelease, build, htrim, hletter, hpre, hbuild, hcut⟩ :=
    exists_cut (Text.trim text.toList)
  rw [parse, hcut] at h
  dsimp only at h
  split at h
  · rename_i hwellFormed
    obtain ⟨major, hmajor, h⟩ := Result.bind_eq_ok.1 h
    obtain ⟨minor, hminor, h⟩ := Result.bind_eq_ok.1 h
    obtain ⟨patch, hpatch, h⟩ := Result.bind_eq_ok.1 h
    simp only [Parts.areWellFormed, Bool.and_eq_true, decide_eq_true_eq] at hwellFormed
    obtain ⟨⟨⟨hcount, hnumbers⟩, hpreParts⟩, hbuildParts⟩ := hwellFormed
    have hpos : 1 ≤ (splitAtMark '.' numbers).length := by
      rw [splitAtMark_eq_splitOn]
      exact List.length_pos_iff.2 (List.splitOn_ne_nil '.' numbers)
    -- the checks of the reader are the fields of a layout
    have hruns := areRuns_of_numbers hcount hnumbers hmajor hminor hpatch
    obtain ⟨hpreIdentifiers, hpreText⟩ := exists_identifiers (c := '-') "-" rfl hpre hpreParts
    obtain ⟨hbuildIdentifiers, hbuildText⟩ :=
      exists_identifiers (c := '+') "+" rfl hbuild hbuildParts
    have hidentifiers := List.forall_mem_append.2 ⟨hpreIdentifiers, hbuildIdentifiers⟩
    obtain ⟨hasLetter, rfl⟩ := exists_ite_of_isLetter hletter
    -- the numbers of the version are those that the runs denote
    rw [number_of_areRuns _ hruns] at hmajor hminor hpatch
    cases hmajor
    cases hminor
    cases hpatch
    cases h
    refine ⟨⟨before, hasLetter, splitAtMark '.' numbers, _, _, after, hblank, ⟨hpos, hcount⟩,
      hruns, hidentifiers⟩, ?_, rfl⟩
    rw [Layout.text, intercalate_splitAtMark, ← hpreText, ← hbuildText, ← htrim]
    exact (congrArg String.ofList htext).symm.trans String.ofList_toList
  · cases h

/-- Reading accepts the texts of layouts and no others, and gives the versions that they spell; what
has no layout is refused as a bad value. -/
theorem parse_grammar (text : String) :
    (∀ v, parse text = .ok v ↔ ∃ layout : Layout, layout.text = text ∧ layout.version = v) ∧
    ((¬ ∃ layout : Layout, layout.text = text) ↔
      ∃ fault, parse text = .error fault ∧ (Failure.version fault).kind = .value) := by
  have haccepts : ∀ v, parse text = .ok v ↔
      ∃ layout : Layout, layout.text = text ∧ layout.version = v := by
    intro v
    constructor
    · exact exists_layout
    · rintro ⟨layout, rfl, rfl⟩
      exact parse_text layout
  refine ⟨haccepts, ?_⟩
  cases hparse : parse text with
  | ok v =>
    obtain ⟨layout, htext, -⟩ := exists_layout hparse
    refine iff_of_false (fun hnone => hnone ⟨layout, htext⟩) ?_
    rintro ⟨fault, hfault, -⟩
    cases hfault
  | error fault =>
    refine iff_of_true ?_ ⟨fault, rfl, rfl⟩
    rintro ⟨layout, rfl⟩
    rw [parse_text] at hparse
    cases hparse

/-- Digits of other scripts count, and hyphens within identifiers do not separate anything. -/
example : parse "\tv15.٣-rc.1--x+b-2\n" = .ok (.ofNumbers 15 3 0 ["rc", "1--x"] ["b-2"]) := rfl

end Version

end PostgresAccess
