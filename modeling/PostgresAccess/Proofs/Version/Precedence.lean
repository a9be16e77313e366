/-!
# Precedence of semantic versions

The precedence of semantic versions (SemVer 2.0.0, section 11), stated by itself.  A release is
compared as three numbers; a prerelease precedes its release; and two prereleases of one release are
compared identifier by identifier, where a list precedes those that it begins.  Numbers among the
identifiers are compared as numbers and precede the others, which are compared as texts.  Build
metadata has no part in it, so a `SemVer` has none.

The kind of the identifiers is left open, because precedence is also asked of the texts that denote
identifiers.  It is irreflexive and transitive whenever the precedence of the identifiers is
(`SemVer.Precedes.irrefl`, `SemVer.Precedes.trans`), and it does not depend on how identifiers are
written as long as different ones are written differently (`SemVer.precedes_map_iff`).
-/

namespace PostgresAccess

/-- An identifier of a prerelease: a number, or a text that is none. -/
inductive SemVer.Identifier where
  | numeric (n : Nat)
  | alphanumeric (text : String)
deriving DecidableEq

/-- What precedence depends on: the numbers of the release and the identifiers of the prerelease. -/
structure SemVer (ι : Type) where
  major : Nat
  minor : Nat
  patch : Nat
  /-- The identifiers of the prerelease; none for a release. -/
  prerelease : List ι

namespace SemVer

variable {ι κ : Type}

/-! ## Identifiers -/

namespace Identifier

/-- Numbers precede by their value, and all of them precede the texts; texts precede
lexicographically, character by character. -/
inductive Precedes : Identifier → Identifier → Prop
  | numeric {m n : Nat} (h : m < n) : Precedes (.numeric m) (.numeric n)
  | mixed (m : Nat) (t : String) : Precedes (.numeric m) (.alphanumeric t)
  | alphanumeric {s t : String} (h : s < t) : Precedes (.alphanumeric s) (.alphanumeric t)

theorem Precedes.irrefl (a : Identifier) : ¬ a.Precedes a := by
  rintro (h | _ | h)
  · exact Nat.lt_irrefl _ h
  · exact String.lt_irrefl _ h

theorem Precedes.trans {a b c : Identifier} (hab : a.Precedes b) (hbc : b.Precedes c) :
    a.Precedes c := by
  cases hab with
  | numeric h =>
    cases hbc with
    | numeric h' => exact .numeric (Nat.lt_trans h h')
    | mixed => exact .mixed _ _
  | mixed m t =>
    cases hbc with
    | alphanumeric h' => exact .mixed _ _
  | alphanumeric h =>
    cases hbc with
    | alphanumeric h' => exact .alphanumeric (String.lt_trans h h')

end Identifier

/-! ## Prereleases -/

/-- Precedence within one release: every prerelease precedes the release, and prereleases precede
each other by their first different identifiers or, if there are none, by their lengths. -/
inductive PrereleasePrecedes (r : ι → ι → Prop) : List ι → List ι → Prop
  | release (a : ι) (as : List ι) : PrereleasePrecedes r (a :: as) []
  | prerelease {a b : ι} {as bs : List ι} (h : List.Lex r (a :: as) (b :: bs)) :
    PrereleasePrecedes r (a :: as) (b :: bs)

namespace PrereleasePrecedes

variable {r : ι → ι → Prop} {as bs cs : List ι}

theorem irrefl (hr : ∀ a, ¬ r a a) (as : List ι) : ¬ PrereleasePrecedes r as as := by
  rintro (_ | h)
  exact List.lex_irrefl hr _ h

theorem trans (hr : ∀ {a b c}, r a b → r b c → r a c) (hab : PrereleasePrecedes r as bs)
    (hbc : PrereleasePrecedes r bs cs) : PrereleasePrecedes r as cs := by
  cases hab with
  | release a as => cases hbc
  | prerelease h =>
    cases hbc with
    | release => exact .release _ _
    | prerelease h' => exact .prerelease (List.lex_trans hr h h')

end PrereleasePrecedes

/-! ## Versions -/

/-- The release of one version precedes that of another, as triples of numbers. -/
def ReleasePrecedes (a b : SemVer ι) : Prop :=
  a.major < b.major ∨ (a.major = b.major ∧
    (a.minor < b.minor ∨ (a.minor = b.minor ∧ a.patch < b.patch)))

/-- Two versions of one release. -/
def SameRelease (a b : SemVer ι) : Prop :=
  a.major = b.major ∧ a.minor = b.minor ∧ a.patch = b.patch

theorem ReleasePrecedes.trans {a b c : SemVer ι} (hab : a.ReleasePrecedes b)
    (hbc : b.ReleasePrecedes c) : a.ReleasePrecedes c := by
  unfold ReleasePrecedes at *
  omega

theorem ReleasePrecedes.of_sameRelease_left {a b c : SemVer ι} (hbc : b.ReleasePrecedes c)
    (hab : a.SameRelease b) : a.ReleasePrecedes c := by
  unfold ReleasePrecedes SameRelease at *
  omega

theorem ReleasePrecedes.of_sameRelease_right {a b c : SemVer ι} (hab : a.ReleasePrecedes b)
    (hbc : b.SameRelease c) : a.ReleasePrecedes c := by
  unfold ReleasePrecedes SameRelease at *
  omega

/-- Precedence: by the release, and within one release by the prerelease. -/
inductive Precedes (r : ι → ι → Prop) (a b : SemVer ι) : Prop
  | release (h : a.ReleasePrecedes b)
  | prerelease (hsame : a.SameRelease b) (h : PrereleasePrecedes r a.prerelease b.prerelease)

namespace Precedes

variable {r : ι → ι → Prop} {a b c : SemVer ι}

theorem irrefl (hr : ∀ i, ¬ r i i) (a : SemVer ι) : ¬ Precedes r a a := by
  rintro (h | ⟨-, h⟩)
  · unfold ReleasePrecedes at h
    omega
  · exact PrereleasePrecedes.irrefl hr _ h

theorem trans (hr : ∀ {i j k}, r i j → r j k → r i k) (hab : Precedes r a b)
    (hbc : Precedes r b c) : Precedes r a c := by
  cases hab with
  | release h =>
    cases hbc with
    | release h' => exact .release (h.trans h')
    | prerelease hsame' h' => exact .release (h.of_sameRelease_right hsame')
  | prerelease hsame h =>
    cases hbc with
    | release h' => exact .release (h'.of_sameRelease_left hsame)
    | prerelease hsame' h' =>
      obtain ⟨hmajor, hminor, hpatch⟩ := hsame
      obtain ⟨hmajor', hminor', hpatch'⟩ := hsame'
      exact .prerelease ⟨hmajor.trans hmajor', hminor.trans hminor', hpatch.trans hpatch'⟩
        (h.trans hr h')

end Precedes

/-! ## Writing identifiers -/

/-- The version with its identifiers written in another way. -/
def map (f : ι → κ) (a : SemVer ι) : SemVer κ := ⟨a.major, a.minor, a.patch, a.prerelease.map f⟩

/-- Lists are compared alike after a map that keeps different members apart. -/
theorem lex_map_iff {f : ι → κ} {r : κ → κ → Prop} {as bs : List ι}
    (hinj : ∀ a ∈ as, ∀ b ∈ bs, f a = f b → a = b) :
    List.Lex r (as.map f) (bs.map f) ↔ List.Lex (fun a b => r (f a) (f b)) as bs := by
  induction as generalizing bs with
  | nil =>
    cases bs with
    | nil => simp
    | cons b bs => exact ⟨fun _ => .nil, fun _ => .nil⟩
  | cons a as ih =>
    cases bs with
    | nil => simp
    | cons b bs =>
      -- heads that the map makes equal were equal before, so both lists are passed over alike
      have hhead := hinj a (.head _) b (.head _)
      have htail := ih fun a' ha b' hb => hinj a' (.tail _ ha) b' (.tail _ hb)
      rw [List.map_cons, List.map_cons, List.cons_lex_cons_iff, List.cons_lex_cons_iff, htail]
      constructor
      · rintro (h | ⟨heq, h⟩)
        · exact .inl h
        · exact .inr ⟨hhead heq, h⟩
      · rintro (h | ⟨rfl, h⟩)
        · exact .inl h
        · exact .inr ⟨rfl, h⟩

theorem prereleasePrecedes_map_iff {f : ι → κ} {r : κ → κ → Prop} {as bs : List ι}
    (hinj : ∀ a ∈ as, ∀ b ∈ bs, f a = f b → a = b) :
    PrereleasePrecedes r (as.map f) (bs.map f) ↔
      PrereleasePrecedes (fun a b => r (f a) (f b)) as bs := by
  have hlex := lex_map_iff (r := r) hinj
  cases as with
  | nil => exact ⟨nofun, nofun⟩
  | cons a as =>
    cases bs with
    | nil => exact ⟨fun _ => .release a as, fun _ => .release _ _⟩
    | cons b bs =>
      constructor
      · rintro (_ | h)
        exact .prerelease (hlex.1 h)
      · rintro (_ | h)
        exact .prerelease (hlex.2 h)

/-- Precedence does not depend on how identifiers are written, if different ones are written
differently. -/
theorem precedes_map_iff {f : ι → κ} {r : κ → κ → Prop} {a b : SemVer ι}
    (hinj : ∀ i ∈ a.prerelease, ∀ j ∈ b.prerelease, f i = f j → i = j) :
    Precedes r (a.map f) (b.map f) ↔ Precedes (fun i j => r (f i) (f j)) a b := by
  have hprerelease := prereleasePrecedes_map_iff (r := r) hinj
  constructor
  · rintro (h | ⟨hsame, h⟩)
    · exact .release h
    · exact .prerelease hsame (hprerelease.1 h)
  · rintro (h | ⟨hsame, h⟩)
    · exact .release h
    · exact .prerelease hsame (hprerelease.2 h)

end SemVer

end PostgresAccess
