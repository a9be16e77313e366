import PostgresAccess.Proofs.Version.Grammar

/-!
# The order of versions and precedence

Versions as texts spell them (`Spelling`) are ordered: nothing comes before itself, and what comes
before is transitive, whatever the spelling of the numbers.  If no number among the identifiers has
a needless zero, the order is the precedence of semantic versions.  Build metadata has no part in
the order, and none in equality.  The main result is `before_refines_precedence`.

The order is compared with precedence in two steps.  It is always the precedence of the identifiers
as they are written (`Spelling.answers_before`), where `1` and `01` are different identifiers of
which neither precedes the other; and that is the precedence of what the identifiers denote if
different ones denote different things (`precedes_semantic_iff`).  Every version that is read is
spelled, unless a number among its identifiers is too long (`exists_spelling_of_parse`).
-/

namespace PostgresAccess.Version

open Result

/-- A version as a text spells it: numbers that are not negative, and identifiers that are not
empty, of which those that are compared as numbers are not too long to be read. -/
structure Spelling where
  major : Nat
  minor : Nat
  patch : Nat
  prerelease : List String
  build : List String
  areComparable : ∀ i ∈ prerelease, IsComparable i
  areIdentifiers : ∀ i ∈ build, isIdentifier i.toList = true

namespace Spelling

/-- The version that is spelled. -/
def version (a : Spelling) : Version := .ofNumbers a.major a.minor a.patch a.prerelease a.build

/-- What precedence depends on, with the identifiers as they are written. -/
def written (a : Spelling) : SemVer String := ⟨a.major, a.minor, a.patch, a.prerelease⟩

/-- What precedence depends on, with the identifiers that are denoted. -/
def semantic (a : Spelling) : SemVer SemVer.Identifier := a.written.map semanticIdentifier

end Spelling

/-! ## Values -/

theorem equals_text (s t : String) : Value.equals (.text s) (.text t) = decide (s = t) := by
  rw [Value.equals, Value.text?, Bool.eq_iff_iff, beq_iff_eq, Option.some.injEq, decide_eq_true_iff]
  exact eq_comm

theorem equals_int (m n : Int) : Value.equals (.int m) (.int n) = decide (m = n) := by
  simp [Value.equals, equalNumbers, Value.number?, Numeral.Number.equals_whole]

theorem related_before_int (m n : Int) :
    Value.related .before (.int m) (.int n) = .ok (decide (m < n)) := by
  simp [Value.related, Relation.holdsOfScalars, Value.number?, Relation.holdsOfNumbers,
    Numeral.Number.place?, Numeral.Place.before, Relation.ofOrder]

/-! ## Parts of versions -/

/-- The precedence of identifiers as they are written. -/
def WrittenPrecedes (i j : String) : Prop :=
  (semanticIdentifier i).Precedes (semanticIdentifier j)

theorem WrittenPrecedes.irrefl (i : String) : ¬ WrittenPrecedes i i :=
  SemVer.Identifier.Precedes.irrefl (semanticIdentifier i)

theorem WrittenPrecedes.trans {i j k : String} (hij : WrittenPrecedes i j)
    (hjk : WrittenPrecedes j k) : WrittenPrecedes i k :=
  SemVer.Identifier.Precedes.trans hij hjk

section Release

variable {major minor patch major' minor' patch' : Int}
  {prerelease build prerelease' build' : List String}

theorem sameRelease_ofNumbers :
    (ofNumbers major minor patch prerelease build).sameRelease
        (ofNumbers major' minor' patch' prerelease' build') =
      decide (major = major' ∧ minor = minor' ∧ patch = patch') := by
  simp [sameRelease, release, ofNumbers, equalValues, equals_int]

theorem releaseBefore_ofNumbers (h : ¬ (major = major' ∧ minor = minor' ∧ patch = patch')) :
    (ofNumbers major minor patch prerelease build).releaseBefore
        (ofNumbers major' minor' patch' prerelease' build') =
      .ok (decide (major < major' ∨ (major = major' ∧
        (minor < minor' ∨ (minor = minor' ∧ patch < patch'))))) := by
  simp only [releaseBefore, release, ofNumbers, relatedValues, equals_int, related_before_int,
    decide_eq_true_eq]
  repeat' split
  · exfalso
    omega
  all_goals
    refine congrArg Except.ok (decide_eq_decide.2 ?_)
    omega

theorem before_ofNumbers_of_ne (h : ¬ (major = major' ∧ minor = minor' ∧ patch = patch')) :
    (ofNumbers major minor patch prerelease build).before
        (ofNumbers major' minor' patch' prerelease' build') =
      .ok (decide (major < major' ∨ (major = major' ∧
        (minor < minor' ∨ (minor = minor' ∧ patch < patch'))))) := by
  rw [before, sameRelease_ofNumbers, decide_eq_false h]
  exact releaseBefore_ofNumbers h

end Release

theorem sameRelease_iff (a b : Spelling) :
    a.version.sameRelease b.version = true ↔ a.written.SameRelease b.written := by
  simp [Spelling.version, sameRelease_ofNumbers, SemVer.SameRelease, Spelling.written]

theorem answers_releaseBefore (a b : Spelling) (h : ¬ a.written.SameRelease b.written) :
    Answers (a.version.releaseBefore b.version) (a.written.ReleasePrecedes b.written) := by
  unfold SemVer.SameRelease SemVer.ReleasePrecedes Spelling.written at *
  rw [Spelling.version, Spelling.version, releaseBefore_ofNumbers (by simpa using h)]
  refine .congr .decide ?_
  simp

/-- Of two lists of identifiers the first different ones decide, if there are any. -/
theorem answers_prereleaseBefore {is js : List String} (his : ∀ i ∈ is, IsComparable i)
    (hjs : ∀ j ∈ js, IsComparable j) :
    Answers (prereleaseBefore (is.map .text) (js.map .text)) (List.Lex WrittenPrecedes is js) := by
  induction is generalizing js with
  | nil =>
    cases js with
    | nil => exact .no nofun
    | cons j js => exact .yes .nil
  | cons i is ih =>
    cases js with
    | nil => exact .no nofun
    | cons j js =>
      rw [List.map_cons, List.map_cons, prereleaseBefore, equals_text]
      by_cases heq : i = j
      -- the same text is passed over, and does not precede itself
      · subst heq
        have hrest := ih (fun i' hi => his i' (.tail _ hi)) fun j' hj => hjs j' (.tail _ hj)
        rw [if_pos (by simp)]
        refine hrest.congr ?_
        rw [List.cons_lex_cons_iff]
        constructor
        · exact fun h => .inr ⟨rfl, h⟩
        · rintro (h | ⟨-, h⟩)
          · exact absurd h (WrittenPrecedes.irrefl i)
          · exact h
      -- different texts end the comparison, also if they denote the same
      · have hfirst := answers_identifierBefore (his i (.head _)) (hjs j (.head _))
        rw [if_neg (by simpa using heq)]
        refine (hfirst.mapError ComparisonFault.number).congr ?_
        rw [List.cons_lex_cons_iff]
        constructor
        · exact .inl
        · rintro (h | ⟨h, -⟩)
          · exact h
          · exact absurd h heq

/-- Within one release, a prerelease comes before the release, and prereleases are told apart by
their identifiers. -/
theorem answers_prerelease {is js : List String} (his : ∀ i ∈ is, IsComparable i)
    (hjs : ∀ j ∈ js, IsComparable j) :
    Answers
      (if (is.map Value.text).isEmpty || (js.map Value.text).isEmpty then
        .ok (!(is.map Value.text).isEmpty && (js.map Value.text).isEmpty)
      else prereleaseBefore (is.map .text) (js.map .text))
      (SemVer.PrereleasePrecedes WrittenPrecedes is js) := by
  cases is with
  | nil => exact .no nofun
  | cons i is =>
    cases js with
    | nil => exact .yes (.release i is)
    | cons j js =>
      refine (answers_prereleaseBefore his hjs).congr ?_
      constructor
      · exact .prerelease
      · rintro (_ | h)
        exact h

/-- The order of versions is the precedence of the identifiers as they are written. -/
theorem Spelling.answers_before (a b : Spelling) :
    Answers (a.version.before b.version) (SemVer.Precedes WrittenPrecedes a.written b.written) := by
  unfold before
  -- prereleases are looked at only where the releases are the same
  by_cases hsame : a.written.SameRelease b.written
  · have hrelease : ¬ a.written.ReleasePrecedes b.written := by
      unfold SemVer.SameRelease SemVer.ReleasePrecedes at *
      omega
    have hiff : SemVer.PrereleasePrecedes WrittenPrecedes a.prerelease b.prerelease ↔
        SemVer.Precedes WrittenPrecedes a.written b.written := by
      constructor
      · exact .prerelease hsame
      · rintro (h | ⟨-, h⟩)
        · exact absurd h hrelease
        · exact h
    rw [(sameRelease_iff a b).2 hsame]
    exact (answers_prerelease a.areComparable b.areComparable).congr hiff
  · have hdifferent : a.version.sameRelease b.version = false := by
      rw [Bool.eq_false_iff, Ne, sameRelease_iff]
      exact hsame
    rw [hdifferent]
    refine (answers_releaseBefore a b hsame).congr ?_
    constructor
    · exact .release
    · rintro (h | ⟨h, -⟩)
      · exact h
      · exact absurd h hsame

/-! ## What reading gives -/

/-- A version that was read is one of numbers that are not negative and of identifiers. -/
theorem exists_numbers_of_parse {text : String} {v : Version} (h : parse text = .ok v) :
    ∃ (major minor patch : Nat) (prerelease build : List String),
      v = .ofNumbers major minor patch prerelease build ∧
      (∀ i ∈ prerelease, isIdentifier i.toList = true) ∧
      ∀ i ∈ build, isIdentifier i.toList = true := by
  obtain ⟨layout, -, rfl⟩ := exists_layout h
  exact ⟨layout.number 0, layout.number 1, layout.number 2, layout.prerelease, layout.build, rfl,
    List.forall_mem_append.1 layout.areIdentifiers⟩

/-- A version that was read is spelled, unless a number among its identifiers is too long. -/
theorem exists_spelling_of_parse {text : String} {v : Version} (h : parse text = .ok v)
    (few : ∀ i, .text i ∈ v.prerelease → isDigits i = true →
      i.toList.length ≤ Numeral.digitLimit) :
    ∃ a : Spelling, a.version = v := by
  obtain ⟨m, n, p, prerelease, build, rfl, hprerelease, hbuild⟩ := exists_numbers_of_parse h
  refine ⟨⟨m, n, p, prerelease, build, fun i hi => ⟨hprerelease i hi, few i ?_⟩, hbuild⟩, rfl⟩
  exact List.mem_map.2 ⟨i, hi, rfl⟩

/-! ## The order and precedence -/

/-- Without needless zeros it makes no difference whether identifiers are compared as they are
written or as what they denote. -/
theorem precedes_semantic_iff {a b : Spelling}
    (h : ∀ i ∈ a.prerelease ++ b.prerelease, ¬ HasLeadingZero i) :
    SemVer.Precedes SemVer.Identifier.Precedes a.semantic b.semantic ↔
      SemVer.Precedes WrittenPrecedes a.written b.written := by
  refine SemVer.precedes_map_iff ?_
  intro i hi j hj
  exact semanticIdentifier_injective (a.areComparable i hi).1 (b.areComparable j hj).1
    (h i (List.mem_append_left _ hi)) (h j (List.mem_append_right _ hj))

/-- Of versions as texts spell them, none comes before itself, and what comes before is transitive.
Without needless zeros the order is the precedence of semantic versions.  Build metadata has no part
in it, and none in equality. -/
theorem before_refines_precedence :
    (∀ a : Spelling, a.version.before a.version = .ok false) ∧
    (∀ a b c : Spelling, a.version.before b.version = .ok true →
      b.version.before c.version = .ok true → a.version.before c.version = .ok true) ∧
    (∀ a b : Spelling, (∀ i ∈ a.prerelease ++ b.prerelease, ¬ HasLeadingZero i) →
      Answers (a.version.before b.version)
        (SemVer.Precedes SemVer.Identifier.Precedes a.semantic b.semantic)) ∧
    ∀ (a b : Version) (build build' : List Value),
      before { a with build } { b with build := build' } = a.before b ∧
      equals { a with build } { b with build := build' } = a.equals b := by
  refine ⟨?_, ?_, ?_, ?_⟩
  · intro a
    rw [(a.answers_before a).eq_false_iff]
    exact SemVer.Precedes.irrefl WrittenPrecedes.irrefl a.written
  · intro a b c hab hbc
    rw [(a.answers_before b).eq_true_iff] at hab
    rw [(b.answers_before c).eq_true_iff] at hbc
    rw [(a.answers_before c).eq_true_iff]
    exact hab.trans WrittenPrecedes.trans hbc
  · intro a b hzeros
    exact (a.answers_before b).congr (precedes_semantic_iff hzeros).symm
  · intro a b build build'
    exact ⟨rfl, rfl⟩

/-- The version 1.0.0-07, whose number has a needless zero. -/
def paddedSpelling : Spelling :=
  ⟨1, 0, 0, ["07"], [], by simp [IsComparable]; decide, by simp⟩

/-- The version 1.0.0-alpha.1+linux. -/
def alphaSpelling : Spelling :=
  ⟨1, 0, 0, ["alpha", "1"], ["linux"], by simp [IsComparable]; decide, by simp; decide⟩

/-- The version 1.0.0-alpha.beta. -/
def betaSpelling : Spelling :=
  ⟨1, 0, 0, ["alpha", "beta"], [], by simp [IsComparable]; decide, by simp⟩

/-- The three versions ascend, and the last two of them by precedence. -/
theorem before_refines_precedence_alpha_beta :
    paddedSpelling.version.before alphaSpelling.version = .ok true ∧
    alphaSpelling.version.before betaSpelling.version = .ok true ∧
    paddedSpelling.version.before betaSpelling.version = .ok true ∧
    SemVer.Precedes SemVer.Identifier.Precedes alphaSpelling.semantic betaSpelling.semantic := by
  obtain ⟨-, htrans, hprecedes, -⟩ := before_refines_precedence
  have hfirst : paddedSpelling.version.before alphaSpelling.version = .ok true := rfl
  have hsecond : alphaSpelling.version.before betaSpelling.version = .ok true := rfl
  refine ⟨hfirst, hsecond, htrans _ _ _ hfirst hsecond, ?_⟩
  refine (hprecedes alphaSpelling betaSpelling ?_).eq_true_iff.1 hsecond
  rintro i hi ⟨-, c, rest, htext⟩
  have hmem : i = "alpha" ∨ i = "1" ∨ i = "alpha" ∨ i = "beta" := by
    simpa [alphaSpelling, betaSpelling] using hi
  obtain rfl | rfl | rfl | rfl := hmem <;> simp at htext

end PostgresAccess.Version
