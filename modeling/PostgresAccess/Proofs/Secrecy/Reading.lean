import PostgresAccess.Proofs.Entries
import PostgresAccess.Proofs.Secrecy.Assembly
import PostgresAccess.Proofs.Settings.Validity
import PostgresAccess.Settings.Source

/-!
# What reading settings tells about the secret

A static password is given by a document or by the environment.  Two documents that differ in it
alone (`Entries.AlikeButSecret`), read in two environments that do (`Environment.AlikeButSecret`),
are rejected in the same words, or give settings that differ in it alone (`parse_alike`).  So do two
files that hold such documents (`load_alike`).
-/

namespace PostgresAccess

/-- Environments that differ in the variable of the password at most, which is set in both if it
differs. -/
structure Environment.AlikeButSecret (env env' : Environment) : Prop where
  others : ∀ v, v ≠ .password → env.text v = env'.text v
  secret : env.text .password = env'.text .password ∨
    (env.text .password ≠ "" ∧ env'.text .password ≠ "")

/-- Tables that differ in the values of the password at most. -/
inductive Entries.AlikeButSecret : Entries → Entries → Prop
  | nil : AlikeButSecret [] []
  | cons {key : String} {v w : Value} {rest rest' : Entries}
    (hvalue : v = w ∨ (key = Field.password.name ∧ v.IsNonEmptyText ∧ w.IsNonEmptyText))
    (hrest : AlikeButSecret rest rest') : AlikeButSecret ((key, v) :: rest) ((key, w) :: rest')

/-- Documents that differ in the values of the password at most. -/
def Value.AreTablesAlike (data data' : Value) : Prop :=
  ∃ entries entries' : Entries, data = .table entries ∧ data' = .table entries' ∧
    entries.AlikeButSecret entries'

namespace Entries.AlikeButSecret

variable {entries entries' : Entries}

theorem get?_of_ne {key : String} (h : entries.AlikeButSecret entries')
    (hkey : key ≠ Field.password.name) : entries.get? key = entries'.get? key := by
  induction h with
  | nil => rfl
  | @cons k v w rest rest' hvalue hrest ih =>
    rw [get?_cons, get?_cons, ih]
    obtain rfl | ⟨rfl, -, -⟩ := hvalue
    · rfl
    · rw [if_neg hkey.symm, if_neg hkey.symm]

/-- The password is given by both tables or by none. -/
theorem get?_password (h : entries.AlikeButSecret entries') :
    (entries.get? Field.password.name = none ∧ entries'.get? Field.password.name = none) ∨
    ∃ v w : Value, entries.get? Field.password.name = some v ∧
      entries'.get? Field.password.name = some w ∧ v.AlikeAsSecret w := by
  induction h with
  | nil => exact .inl ⟨rfl, rfl⟩
  | @cons k v w rest rest' hvalue hrest ih =>
    rw [get?_cons, get?_cons]
    by_cases hk : k = Field.password.name
    · rw [if_pos hk, if_pos hk]
      refine .inr ⟨v, w, rfl, rfl, ?_⟩
      obtain heq | ⟨-, hv, hw⟩ := hvalue
      · exact .inl heq
      · exact .inr ⟨hv, hw⟩
    · rw [if_neg hk, if_neg hk]
      exact ih

theorem unknownFaults (h : entries.AlikeButSecret entries') :
    Settings.unknownFaults entries = Settings.unknownFaults entries' := by
  induction h with
  | nil => rfl
  | @cons k v w rest rest' hvalue hrest ih =>
    unfold Settings.unknownFaults at ih ⊢
    obtain rfl | ⟨rfl, -, -⟩ := hvalue
    · rw [List.filter_cons, List.filter_cons]
      split
      · rw [List.map_cons, List.map_cons, ih]
      · exact ih
    -- entries of the secret, which may differ, are dropped from both tables
    · have hknown : (Field.ofName? Field.password.name).isNone = false := by decide
      rw [List.filter_cons_of_neg (by simp [hknown]), List.filter_cons_of_neg (by simp [hknown]),
        ih]

end Entries.AlikeButSecret

namespace Settings

variable {env env' : Environment} {entries entries' : Entries}

/-- What holds of the secret and of all the other fields holds of every field. -/
theorem forall_of_secret {p : Field → Prop} (hothers : ∀ f, f ≠ .password → p f)
    (hsecret : p .password) (f : Field) : p f := by
  by_cases hf : f = .password
  · rw [hf]
    exact hsecret
  · exact hothers f hf

theorem AlikeButSecret.of_get {s t : Settings}
    (hothers : ∀ f, f ≠ .password → s.get f = t.get f)
    (hsecret : s.password.AlikeAsSecret t.password) : s.AlikeButSecret t := by
  refine ⟨?_, hsecret⟩
  have hall : ∀ f, t.get f = ({ s with password := t.password } : Settings).get f := by
    refine forall_of_secret (fun f hf => ?_) rfl
    rw [← hothers f hf]
    cases f <;> first | rfl | exact absurd rfl hf
  rw [← ofFields_get t, funext hall, ofFields_get]

/-! ## The values of the fields -/

theorem supplier?_eq_password {f : Field} (h : supplier? f = some .password) : f = .password := by
  cases f <;> first | rfl | cases h

theorem fallback_of_ne (henv : env.AlikeButSecret env') {f : Field} (hf : f ≠ .password) :
    fallback env f = fallback env' f := by
  unfold fallback Environment.text?
  cases hsupplier : supplier? f with
  | none => rfl
  | some v =>
    have hv : v ≠ .password := by
      rintro rfl
      exact hf (supplier?_eq_password hsupplier)
    simp only [henv.others v hv]

theorem given_of_ne (henv : env.AlikeButSecret env') (hentries : entries.AlikeButSecret entries')
    {f : Field} (hf : f ≠ .password) : given env entries f = given env' entries' f := by
  have hname : f.name ≠ Field.password.name := by
    cases f <;> first | decide | exact absurd rfl hf
  unfold given
  rw [hentries.get?_of_ne hname, fallback_of_ne henv hf]

theorem fallback_password (env : Environment) :
    fallback env .password =
      .ok (if env.text .password = "" then .null else .text (env.text .password)) := by
  unfold fallback Environment.text?
  simp only [supplier?]
  split <;> rename_i h
  · split at h
    · rename_i hempty
      rw [if_pos hempty]
      rfl
    · cases h
  · split at h
    · cases h
    · rename_i hset
      cases h
      rw [if_neg hset]
      rfl

/-- The secret is given in both, and it converts: it is a text. -/
theorem given_password (henv : env.AlikeButSecret env')
    (hentries : entries.AlikeButSecret entries') :
    Result.Alike Value.AlikeAsSecret (given env entries .password)
      (given env' entries' .password) := by
  unfold given
  obtain ⟨hnone, hnone'⟩ | ⟨v, w, hv, hw, hsecret⟩ := hentries.get?_password
  · rw [hnone, hnone', fallback_password, fallback_password]
    refine .ok ?_
    obtain heq | ⟨hset, hset'⟩ := henv.secret
    · rw [heq]
      exact .inl rfl
    · rw [if_neg hset, if_neg hset']
      exact .inr ⟨⟨_, rfl, hset⟩, _, rfl, hset'⟩
  · rw [hv, hw]
    exact .ok hsecret

theorem contentOf_of_ne (henv : env.AlikeButSecret env')
    (hentries : entries.AlikeButSecret entries') {f : Field} (hf : f ≠ .password) :
    contentOf env entries f = contentOf env' entries' f := by
  unfold contentOf
  rw [given_of_ne henv hentries hf]

theorem contentOf_password (henv : env.AlikeButSecret env')
    (hentries : entries.AlikeButSecret entries') :
    Result.Alike Value.AlikeAsSecret (contentOf env entries .password)
      (contentOf env' entries' .password) := by
  have hgiven := given_password henv hentries
  unfold contentOf
  generalize given env entries .password = x at hgiven ⊢
  generalize given env' entries' .password = y at hgiven ⊢
  cases hgiven with
  | error fault => exact .error []
  | ok hsecret =>
    obtain rfl | ⟨⟨t, rfl, ht⟩, u, rfl, hu⟩ := hsecret
    · exact .refl (fun _ => .inl rfl) _
    · exact .ok (.inr ⟨⟨t, rfl, ht⟩, u, rfl, hu⟩)

/-! ## Reading -/

theorem succeeds_alike {α : Type} {R : α → α → Prop} {x y : Except (List Fault) α}
    (h : Result.Alike R x y) : succeeds x = succeeds y := by
  cases h <;> rfl

theorem faultsOf_alike {α : Type} {R : α → α → Prop} {x y : Except (List Fault) α}
    (h : Result.Alike R x y) : faultsOf x = faultsOf y := by
  cases h <;> rfl

theorem conversionFault?_alike {R : Value → Value → Prop} {x y : Except ConversionFault Value}
    (h : Result.Alike R x y) : conversionFault? x = conversionFault? y := by
  cases h <;> rfl

theorem resultOf_alike {α : Type} {R : α → α → Prop} {x y : Except (List Fault) α}
    (h : Result.Alike R x y) (hx : succeeds x = true) (hy : succeeds y = true) :
    R (resultOf x hx) (resultOf y hy) := by
  cases h with
  | error faults => cases hx
  | ok ha => exact ha

/-- Readings that are alike field by field are gathered to the same faults, or to settings that are
alike field by field. -/
theorem gather_alike {R : (f : Field) → f.Content → f.Content → Prop}
    {reading reading' : (f : Field) → Except (List Fault) f.Content} (more : List Fault)
    (h : ∀ f, Result.Alike (R f) (reading f) (reading' f)) :
    Result.Alike (fun s t => ∀ f, R f (s.get f) (t.get f)) (gather reading more)
      (gather reading' more) := by
  have hsucceeds : ∀ f, succeeds (reading f) = succeeds (reading' f) := fun f =>
    succeeds_alike (h f)
  have hfaults : ∀ f, faultsOf (reading f) = faultsOf (reading' f) := fun f =>
    faultsOf_alike (h f)
  -- whether every field is read is the same of both, and so are the faults if one is not
  by_cases all : ∀ f ∈ Field.all, succeeds (reading f) = true
  · have all' : ∀ f ∈ Field.all, succeeds (reading' f) = true := by
      intro f hf
      rw [← hsucceeds f, all f hf]
    unfold gather
    rw [dif_pos all, dif_pos all']
    split
    · refine .ok fun f => ?_
      rw [get_ofFields, get_ofFields]
      exact resultOf_alike (h f) _ _
    · exact .error more
  · have all' : ¬ ∀ f ∈ Field.all, succeeds (reading' f) = true := by
      intro hall
      refine all fun f hf => ?_
      rw [hsucceeds f, hall f hf]
    unfold gather
    rw [dif_neg all, dif_neg all']
    simp only [hfaults]
    exact .error _

/-- Contents that differ at most as the secret may, and only in its field. -/
def AreContentsAlike (f : Field) (content content' : f.Content) : Prop :=
  (f ≠ .password → content = content') ∧
    (f = .password → (f.toValue content).AlikeAsSecret (f.toValue content'))

theorem contentOf_alike (henv : env.AlikeButSecret env')
    (hentries : entries.AlikeButSecret entries') (f : Field) :
    Result.Alike (AreContentsAlike f) (contentOf env entries f) (contentOf env' entries' f) := by
  refine forall_of_secret (p := fun f => Result.Alike (AreContentsAlike f)
    (contentOf env entries f) (contentOf env' entries' f)) (fun f hf => ?_) ?_ f
  · rw [contentOf_of_ne henv hentries hf]
    exact .refl (fun _ => ⟨fun _ => rfl, fun hsecret => absurd hsecret hf⟩) _
  · exact (contentOf_password henv hentries).mono fun _ _ h =>
      ⟨fun hne => absurd rfl hne, fun _ => h⟩

/-- Two tables that differ in the secret alone are rejected alike, or read as settings that differ
in it alone. -/
theorem readEntries_alike (henv : env.AlikeButSecret env')
    (hentries : entries.AlikeButSecret entries') :
    Result.Alike AlikeButSecret (readEntries env entries) (readEntries env' entries') := by
  have hconversion : ∀ f, conversionFault? (given env entries f) =
      conversionFault? (given env' entries' f) :=
    forall_of_secret (fun f hf => by rw [given_of_ne henv hentries hf])
      (conversionFault?_alike (given_password henv hentries))
  have hgather : Result.Alike AlikeButSecret
      (gather (contentOf env entries) (unknownFaults entries'))
      (gather (contentOf env' entries') (unknownFaults entries')) :=
    (gather_alike _ (contentOf_alike henv hentries)).mono fun _ _ h =>
      .of_get (fun f hf => (h f).1 hf) ((h .password).2 rfl)
  unfold readEntries
  rw [funext hconversion, hentries.unknownFaults]
  split
  · exact .error _
  · exact hgather.mapError _

/-- Two documents that differ in the secret alone are rejected in the same words, or read as
settings that differ in it alone. -/
theorem parse_alike (source : String) {data data' : Value} (henv : env.AlikeButSecret env')
    (hdata : data.AreTablesAlike data') :
    Result.Alike AlikeButSecret (parse env source data) (parse env' source data') := by
  obtain ⟨entries, entries', rfl, rfl, hentries⟩ := hdata
  have hread := readEntries_alike henv hentries
  simp only [parse, Settings.read]
  generalize readEntries env entries = x at hread ⊢
  generalize readEntries env' entries' = y at hread ⊢
  cases hread with
  | error rejection =>
    cases rejection with
    | unconverted fault => exact .error _
    | rejected faults =>
      simp only
      split
      · exact .error _
      · exact .error _
  | ok hsettings => exact .ok hsettings

/-- Two files whose attributes differ in the secret alone are rejected in the same words, or read as
settings that differ in it alone. -/
theorem load_alike {readFile readFile' : FileReader} (path : String)
    (henv : env.AlikeButSecret env')
    (hattributes : Result.Alike Value.AreTablesAlike
      (attributesOfFile readFile (Path.normalise path))
      (attributesOfFile readFile' (Path.normalise path))) :
    Result.Alike AlikeButSecret (load env readFile path) (load env' readFile' path) :=
  hattributes.bind fun _ _ hdata => parse_alike _ henv hdata

end Settings

end PostgresAccess
