import PostgresAccess.Proofs.Version.Order

/-!
# Which versions are told apart

Of two versions that were read, either the first comes before the second, or the second before the
first, or they are equal, and the four relations agree with that: the versions are ordered
(`AreOrdered`).  There is one exception, two prereleases of one release whose first different
identifiers clash.  Both are numbers then, and the numbers are equal or one of them is too long to
be read.  Of `1.0.0-01` and `1.0.0-1` neither comes before the other and they are not equal, so each
is after the other; and a number that is too long leaves all questions without an answer.

The main result, `areOrdered_iff_of_parse`, says that there is no other exception.  Its proof
follows the comparison: identifiers, then lists of identifiers by induction, then versions.
-/

namespace PostgresAccess

namespace Result

/-- Two questions are answered, and exactly one of three things is the case: the first answer is
yes, the second answer is yes, or the third thing holds. -/
inductive OneHolds {ε : Type} : Except ε Bool → Except ε Bool → Bool → Prop
  | first : OneHolds (.ok true) (.ok false) false
  | second : OneHolds (.ok false) (.ok true) false
  | third : OneHolds (.ok false) (.ok false) true

namespace OneHolds

variable {ε ε' : Type}

theorem mapError_iff {x y : Except ε Bool} {third : Bool} (f : ε → ε') :
    OneHolds (x.mapError f) (y.mapError f) third ↔ OneHolds x y third := by
  cases x <;> cases y <;> constructor <;> rintro (_ | _ | _) <;> constructor

theorem of_iff_not {p q : Prop} [Decidable p] [Decidable q] (h : p ↔ ¬ q) :
    OneHolds (.ok (decide p) : Except ε Bool) (.ok (decide q)) false := by
  by_cases hq : q
  · have hp : ¬ p := fun hp => h.1 hp hq
    rw [decide_eq_false hp, decide_eq_true hq]
    exact .second
  · rw [decide_eq_true (h.2 hq), decide_eq_false hq]
    exact .first

end OneHolds

end Result

namespace Version

open Numeral (digitLimit)
open Result

/-! ## What is ordered, and what clashes -/

/-- Two versions are ordered: exactly one of the three holds that the first comes before the second,
the second before the first, or both are equal, and the other relations follow from that. -/
structure AreOrdered (a b : Version) : Prop where
  one : OneHolds (a.before b) (b.before a) (a.equals b)
  atMost : related .atMost a b = (b.before a).map (!·)
  atLeast : related .atLeast b a = (b.before a).map (!·)
  after : related .after a b = b.before a

/-- At the first place at which two lists differ, the first has `a` and the second has `b`. -/
inductive FirstDifference {α : Type} (a b : α) : List α → List α → Prop
  | here (hne : a ≠ b) (as bs : List α) : FirstDifference a b (a :: as) (b :: bs)
  | later (c : α) {as bs : List α} (h : FirstDifference a b as bs) :
    FirstDifference a b (c :: as) (c :: bs)

/-- Two identifiers that no comparison tells apart: both are numbers, and the numbers are equal or
one of them is too long to be read. -/
structure Clash (i j : String) : Prop where
  left : isDigits i = true
  right : isDigits j = true
  alike : valueOfDigits i = valueOfDigits j ∨ digitLimit < i.toList.length ∨
    digitLimit < j.toList.length

/-- The first different identifiers of two lists clash. -/
def ListsClash (is js : List Value) : Prop :=
  ∃ i j : String, FirstDifference (.text i) (.text j) is js ∧ Clash i j

/-- Two versions of one release whose first different identifiers clash. -/
def Clashing (a b : Version) : Prop :=
  a.sameRelease b = true ∧ ListsClash a.prerelease b.prerelease

/-- Once exactly one of the three holds, the other relations follow. -/
theorem areOrdered_iff {a b : Version} :
    AreOrdered a b ↔ OneHolds (a.before b) (b.before a) (a.equals b) := by
  refine ⟨AreOrdered.one, fun h => ⟨h, ?_, ?_, ?_⟩⟩
  all_goals
    unfold related
    revert h
    generalize a.before b = isBefore
    generalize b.before a = isAfter
    generalize a.equals b = isEqual
    rintro (_ | _ | _) <;> rfl

/-! ## Identifiers -/

variable {i j : String}

theorem identifierBefore_of_isDigits (hi : isIdentifier i.toList = true)
    (hj : isIdentifier j.toList = true) (hidigits : isDigits i = true)
    (hjdigits : isDigits j = true) :
    identifierBefore i j = do
      let m ← Numeral.readInteger i
      let n ← Numeral.readInteger j
      return decide (m < n) := by
  rw [identifierBefore, isNumeric_eq hi, isNumeric_eq hj, hidigits, hjdigits]
  rfl

theorem identifierBefore_of_not_isDigits (hi : isIdentifier i.toList = true)
    (hj : isIdentifier j.toList = true) (hother : isDigits i = false ∨ isDigits j = false) :
    identifierBefore i j =
      .ok (isDigits i || (!isDigits j && decide (i < j))) := by
  rw [identifierBefore, isNumeric_eq hi, isNumeric_eq hj]
  cases hidigits : isDigits i <;> cases hjdigits : isDigits j
  · rfl
  · rfl
  · rfl
  · simp [hidigits, hjdigits] at hother

theorem identifierBefore_of_few (hi : isIdentifier i.toList = true)
    (hj : isIdentifier j.toList = true) (hidigits : isDigits i = true)
    (hjdigits : isDigits j = true) (hifew : i.toList.length ≤ digitLimit)
    (hjfew : j.toList.length ≤ digitLimit) :
    identifierBefore i j = .ok (decide (valueOfDigits i < valueOfDigits j)) := by
  have hiread := readInteger_of_isDigits (forall_of_isIdentifier hi).1 hidigits hifew
  have hjread := readInteger_of_isDigits (forall_of_isIdentifier hj).1 hjdigits hjfew
  rw [identifierBefore_of_isDigits hi hj hidigits hjdigits, hiread, hjread]
  exact congrArg Except.ok (decide_eq_decide.2 Int.ofNat_lt)

theorem identifierBefore_of_long (hi : isIdentifier i.toList = true)
    (hj : isIdentifier j.toList = true) (hidigits : isDigits i = true)
    (hjdigits : isDigits j = true)
    (hlong : digitLimit < i.toList.length ∨ digitLimit < j.toList.length) :
    ∃ fault, identifierBefore i j = .error fault := by
  rw [identifierBefore_of_isDigits hi hj hidigits hjdigits,
    readInteger_eq_ite (forall_of_isIdentifier hi).1 hidigits,
    readInteger_eq_ite (forall_of_isIdentifier hj).1 hjdigits]
  by_cases hifew : i.toList.length > digitLimit
  · rw [if_pos hifew]
    exact ⟨_, rfl⟩
  · rw [if_neg hifew, if_pos (hlong.resolve_left hifew)]
    exact ⟨_, rfl⟩

theorem text_lt_iff_not_lt {s t : String} (hne : s ≠ t) : s < t ↔ ¬ t < s := by
  refine ⟨String.lt_asymm, fun hle => ?_⟩
  by_contra hge
  exact hne (String.le_antisymm (String.not_lt.1 hle) (String.not_lt.1 hge))

/-- Different identifiers are told apart unless they clash. -/
theorem oneHolds_identifierBefore_iff (hi : isIdentifier i.toList = true)
    (hj : isIdentifier j.toList = true) (hne : i ≠ j) :
    OneHolds (identifierBefore i j) (identifierBefore j i) false ↔ ¬ Clash i j := by
  by_cases hdigits : isDigits i = true ∧ isDigits j = true
  · obtain ⟨hidigits, hjdigits⟩ := hdigits
    by_cases hlong : digitLimit < i.toList.length ∨ digitLimit < j.toList.length
    · obtain ⟨fault, hfault⟩ := identifierBefore_of_long hi hj hidigits hjdigits hlong
      rw [hfault]
      exact ⟨nofun, fun h => absurd ⟨hidigits, hjdigits, .inr hlong⟩ h⟩
    · have hfew : i.toList.length ≤ digitLimit ∧ j.toList.length ≤ digitLimit := by omega
      rw [identifierBefore_of_few hi hj hidigits hjdigits hfew.1 hfew.2,
        identifierBefore_of_few hj hi hjdigits hidigits hfew.2 hfew.1]
      by_cases hvalue : valueOfDigits i = valueOfDigits j
      · refine ⟨fun h => ?_, fun h => absurd ⟨hidigits, hjdigits, .inl hvalue⟩ h⟩
        simp only [hvalue, Nat.lt_irrefl, decide_false] at h
        cases h
      · refine ⟨fun _ h => h.alike.elim hvalue hlong, fun _ => .of_iff_not ?_⟩
        omega
  · have hclash : ¬ Clash i j := fun h => hdigits ⟨h.left, h.right⟩
    have hother : isDigits i = false ∨ isDigits j = false := by
      simpa [-not_and, Classical.not_and_iff_not_or_not] using hdigits
    refine ⟨fun _ => hclash, fun _ => ?_⟩
    -- numbers come before texts, and two different texts are ordered one way
    rw [identifierBefore_of_not_isDigits hi hj hother,
      identifierBefore_of_not_isDigits hj hi hother.symm]
    cases hidigits : isDigits i <;> cases hjdigits : isDigits j
    · exact .of_iff_not (text_lt_iff_not_lt hne)
    · exact .second
    · exact .first
    · exact absurd ⟨hidigits, hjdigits⟩ hdigits

/-! ## Lists of identifiers -/

section Difference

variable {α : Type} {a b c d : α} {as bs : List α}

theorem firstDifference_cons_self :
    FirstDifference a b (c :: as) (c :: bs) ↔ FirstDifference a b as bs := by
  refine ⟨fun h => ?_, .later c⟩
  rcases h with ⟨hne, -, -⟩ | ⟨-, h⟩
  · exact absurd rfl hne
  · exact h

theorem firstDifference_cons_of_ne (hne : c ≠ d) :
    FirstDifference a b (c :: as) (d :: bs) ↔ a = c ∧ b = d := by
  constructor
  · intro h
    cases h with
    | here => exact ⟨rfl, rfl⟩
    | later => exact absurd rfl hne
  · rintro ⟨rfl, rfl⟩
    exact .here hne as bs

end Difference

theorem not_listsClash_nil_left (js : List Value) : ¬ ListsClash [] js := by
  rintro ⟨i, j, h, -⟩
  cases h

theorem not_listsClash_nil_right (is : List Value) : ¬ ListsClash is [] := by
  rintro ⟨i, j, h, -⟩
  cases h

theorem listsClash_cons_self {v : Value} {is js : List Value} :
    ListsClash (v :: is) (v :: js) ↔ ListsClash is js := by
  simp only [ListsClash, firstDifference_cons_self]

theorem listsClash_cons_of_ne (hne : i ≠ j) {is js : List Value} :
    ListsClash (.text i :: is) (.text j :: js) ↔ Clash i j := by
  have hvalue : Value.text i ≠ Value.text j := fun h => hne (Value.text.inj h)
  simp only [ListsClash, firstDifference_cons_of_ne hvalue]
  constructor
  · rintro ⟨i', j', ⟨⟨⟩, ⟨⟩⟩, h⟩
    exact h
  · intro h
    exact ⟨i, j, ⟨rfl, rfl⟩, h⟩

/-- Lists of identifiers are told apart or equal, unless they clash. -/
theorem oneHolds_prereleaseBefore_iff {is js : List String}
    (his : ∀ i ∈ is, isIdentifier i.toList = true) (hjs : ∀ j ∈ js, isIdentifier j.toList = true) :
    OneHolds (prereleaseBefore (is.map .text) (js.map .text))
        (prereleaseBefore (js.map .text) (is.map .text))
        (equalValues (is.map .text) (js.map .text)) ↔
      ¬ ListsClash (is.map .text) (js.map .text) := by
  induction is generalizing js with
  | nil =>
    refine ⟨fun _ => not_listsClash_nil_left _, fun _ => ?_⟩
    cases js with
    | nil => exact .third
    | cons j js => exact .first
  | cons i is ih =>
    cases js with
    | nil => exact ⟨fun _ => not_listsClash_nil_right _, fun _ => .second⟩
    | cons j js =>
      simp only [List.map_cons, prereleaseBefore, equalValues, equals_text]
      by_cases heq : i = j
      -- the same identifier is passed over
      · subst heq
        have hrest := ih (fun i' hi => his i' (.tail _ hi)) fun j' hj => hjs j' (.tail _ hj)
        rw [listsClash_cons_self]
        simpa using hrest
      -- different identifiers end the comparison
      · have hfirst := oneHolds_identifierBefore_iff (his i (.head _)) (hjs j (.head _)) heq
        rw [listsClash_cons_of_ne heq, ← hfirst]
        simp only [heq, Ne.symm heq, decide_false, Bool.false_and]
        exact OneHolds.mapError_iff ComparisonFault.number

/-! ## Versions -/

/-- The numbers of different releases tell them apart. -/
theorem oneHolds_of_not_sameRelease {major minor patch major' minor' patch' : Int}
    (is build js build' : List String)
    (h : ¬ (major = major' ∧ minor = minor' ∧ patch = patch')) :
    OneHolds
      (before (.ofNumbers major minor patch is build) (.ofNumbers major' minor' patch' js build'))
      (before (.ofNumbers major' minor' patch' js build') (.ofNumbers major minor patch is build))
      (equals (.ofNumbers major minor patch is build)
        (.ofNumbers major' minor' patch' js build')) := by
  have h' : ¬ (major' = major ∧ minor' = minor ∧ patch' = patch) := by omega
  have hequals : equals (.ofNumbers major minor patch is build)
      (.ofNumbers major' minor' patch' js build') = false := by
    rw [equals, ← sameRelease, sameRelease_ofNumbers, decide_eq_false h, Bool.false_and]
  rw [before_ofNumbers_of_ne h, before_ofNumbers_of_ne h', hequals]
  refine .of_iff_not ?_
  omega

/-- Within one release, prereleases and the release itself are told apart or equal, unless the
prereleases clash. -/
theorem oneHolds_iff_of_sameRelease {a b : Version} {is js : List String}
    (ha : a.prerelease = is.map .text) (hb : b.prerelease = js.map .text)
    (his : ∀ i ∈ is, isIdentifier i.toList = true) (hjs : ∀ j ∈ js, isIdentifier j.toList = true)
    (hsame : a.sameRelease b = true) (hsame' : b.sameRelease a = true) :
    OneHolds (a.before b) (b.before a) (a.equals b) ↔ ¬ ListsClash a.prerelease b.prerelease := by
  unfold before equals
  rw [← sameRelease, hsame, hsame', ha, hb]
  cases is with
  | nil =>
    refine ⟨fun _ => not_listsClash_nil_left _, fun _ => ?_⟩
    cases js with
    | nil => exact .third
    | cons j js => exact .second
  | cons i is =>
    cases js with
    | nil => exact ⟨fun _ => not_listsClash_nil_right _, fun _ => .first⟩
    | cons j js => exact oneHolds_prereleaseBefore_iff his hjs

/-- Versions that were read are ordered unless they clash. -/
theorem areOrdered_iff_of_parse {s t : String} {a b : Version} (hs : parse s = .ok a)
    (ht : parse t = .ok b) : AreOrdered a b ↔ ¬ Clashing a b := by
  rw [areOrdered_iff, Clashing]
  obtain ⟨major, minor, patch, is, build, ha, his, -⟩ := exists_numbers_of_parse hs
  obtain ⟨major', minor', patch', js, build', hb, hjs, -⟩ := exists_numbers_of_parse ht
  have hrelease : a.sameRelease b = true ↔
      (major : Int) = major' ∧ (minor : Int) = minor' ∧ (patch : Int) = patch' := by
    rw [ha, hb, sameRelease_ofNumbers, decide_eq_true_iff]
  by_cases hsame : a.sameRelease b = true
  · have hsame' : b.sameRelease a = true := by
      rw [ha, hb, sameRelease_ofNumbers, decide_eq_true_iff]
      have := hrelease.1 hsame
      omega
    have hpa : a.prerelease = is.map .text := by rw [ha]; rfl
    have hpb : b.prerelease = js.map .text := by rw [hb]; rfl
    rw [oneHolds_iff_of_sameRelease hpa hpb his hjs hsame hsame', and_iff_right hsame]
  · have hone := oneHolds_of_not_sameRelease is build js build' (mt hrelease.2 hsame)
    rw [← ha, ← hb] at hone
    exact ⟨fun _ h => hsame h.1, fun _ => hone⟩

/-- The versions `1.0.0-alpha.9` and `v1-alpha.10+linux` are ordered. -/
theorem areOrdered_iff_of_parse_alpha :
    ∃ a b, parse "1.0.0-alpha.9" = .ok a ∧ parse " v1-alpha.10+linux" = .ok b ∧
      AreOrdered a b := by
  have ha : parse "1.0.0-alpha.9" = .ok (.ofNumbers 1 0 0 ["alpha", "9"] []) := by rfl
  have hb : parse " v1-alpha.10+linux" = .ok (.ofNumbers 1 0 0 ["alpha", "10"] ["linux"]) := by
    rfl
  refine ⟨_, _, ha, hb, (areOrdered_iff_of_parse ha hb).2 ?_⟩
  rintro ⟨-, h⟩
  have hclash : Clash "9" "10" :=
    (listsClash_cons_of_ne (by decide)).1 (listsClash_cons_self.1 h)
  rcases hclash.alike with hvalue | hlong | hlong
  · exact absurd hvalue (by decide)
  · exact absurd hlong (by decide)
  · exact absurd hlong (by decide)

/-- Of `1.0.0-01` and `1.0.0-1` neither comes before the other, and they are not equal. -/
theorem not_areOrdered_padded :
    ∃ a b, parse "1.0.0-01" = .ok a ∧ parse "1.0.0-1" = .ok b ∧ a.before b = .ok false ∧
      b.before a = .ok false ∧ a.equals b = false ∧ ¬ AreOrdered a b := by
  have ha : parse "1.0.0-01" = .ok (.ofNumbers 1 0 0 ["01"] []) := by rfl
  have hb : parse "1.0.0-1" = .ok (.ofNumbers 1 0 0 ["1"] []) := by rfl
  have hbefore : before (.ofNumbers 1 0 0 ["01"] []) (.ofNumbers 1 0 0 ["1"] []) = .ok false := by
    rfl
  have hafter : before (.ofNumbers 1 0 0 ["1"] []) (.ofNumbers 1 0 0 ["01"] []) = .ok false := by
    rfl
  have hequals : equals (.ofNumbers 1 0 0 ["01"] []) (.ofNumbers 1 0 0 ["1"] []) = false := by rfl
  refine ⟨_, _, ha, hb, hbefore, hafter, hequals, fun h => ?_⟩
  have hone := h.one
  rw [hbefore, hafter, hequals] at hone
  cases hone

end Version

end PostgresAccess
