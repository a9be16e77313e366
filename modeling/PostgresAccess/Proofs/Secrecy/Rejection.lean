import PostgresAccess.Proofs.Secrecy.Reading
import PostgresAccess.Proofs.Settings.Loading

/-!
# What a rejection tells about the secrets

A document has two secrets, the password and the command line of its helper, and a report on a
document shows the values that it rejects.  Two documents are compared that differ in the values of
their secrets, each of them a text or nothing in both or in neither (`Entries.AlikeButSecrets`);
they are read in two environments that differ in the password (`Environment.AlikeButSecret`).

A report masks what is given for a secret, and says of other values what it would say without the
secrets, so the two documents are rejected in the same words; or they give settings that differ in
the secrets alone and are shown alike (`Settings.parse_undisclosed`).  Both have the kind of failure
that bad attributes have, unless a value that is no secret holds a number of too many digits to be
shown.
-/

namespace PostgresAccess

/-- Tables that differ in the values of secret fields at most, which are texts or missing in both or
in neither. -/
inductive Entries.AlikeButSecrets : Entries → Entries → Prop
  | nil : AlikeButSecrets [] []
  | same (entry : String × Value) {rest rest' : Entries} (hrest : AlikeButSecrets rest rest') :
    AlikeButSecrets (entry :: rest) (entry :: rest')
  | secret {f : Field} {v w : Value} {rest rest' : Entries} (hf : f.isSecret = true)
    (hkind : v.IsOptionalText ↔ w.IsOptionalText) (hrest : AlikeButSecrets rest rest') :
    AlikeButSecrets ((f.name, v) :: rest) ((f.name, w) :: rest')

namespace Entries.AlikeButSecrets

variable {entries entries' : Entries}

theorem get?_of_not_isSecret (h : entries.AlikeButSecrets entries') {f : Field}
    (hf : f.isSecret = false) : entries.get? f.name = entries'.get? f.name := by
  induction h with
  | nil => rfl
  | same entry hrest ih => rw [get?_cons, get?_cons, ih]
  | @secret g v w rest rest' hg hkind hrest ih =>
    have hname : g.name ≠ f.name := by
      intro hname
      rw [Field.name_injective hname, hf] at hg
      cases hg
    rw [get?_cons, get?_cons, if_neg hname, if_neg hname, ih]

/-- A key has values that are texts or missing in both tables or in neither, or no value. -/
theorem get?_cases (h : entries.AlikeButSecrets entries') (key : String) :
    (entries.get? key = none ∧ entries'.get? key = none) ∨
    ∃ v w : Value, entries.get? key = some v ∧ entries'.get? key = some w ∧
      (v.IsOptionalText ↔ w.IsOptionalText) := by
  induction h with
  | nil => exact .inl ⟨rfl, rfl⟩
  | same entry hrest ih =>
    rw [get?_cons, get?_cons]
    split
    · exact .inr ⟨_, _, rfl, rfl, Iff.rfl⟩
    · exact ih
  | secret hf hkind hrest ih =>
    rw [get?_cons, get?_cons]
    split
    · exact .inr ⟨_, _, rfl, rfl, hkind⟩
    · exact ih

theorem unknownFaults (h : entries.AlikeButSecrets entries') :
    Settings.unknownFaults entries = Settings.unknownFaults entries' := by
  unfold Settings.unknownFaults
  induction h with
  | nil => rfl
  | same entry hrest ih =>
    rw [List.filter_cons, List.filter_cons]
    split
    · rw [List.map_cons, List.map_cons, ih]
    · exact ih
  | @secret f v w rest rest' hf hkind hrest ih =>
    have hknown : (Field.ofName? f.name).isNone = false := by
      rw [Field.ofName?_name]
      rfl
    rw [List.filter_cons_of_neg (by simp [hknown]), List.filter_cons_of_neg (by simp [hknown]), ih]

end Entries.AlikeButSecrets

namespace Settings

/-! ## Masked faults -/

/-- A fault as it is shown. -/
def Fault.masked (fault : Fault) : Fault := { fault with input := fault.shown }

@[simp] theorem Fault.shown_masked (fault : Fault) : fault.masked.shown = fault.shown := by
  have hsecret : fault.masked.isSecret = fault.isSecret := rfl
  unfold Fault.shown
  rw [hsecret]
  split
  · rfl
  · rename_i hplain
    rw [Fault.masked, Fault.shown, if_neg hplain]

@[simp] theorem Fault.describe_masked (fault : Fault) : fault.masked.describe = fault.describe := by
  unfold Fault.describe
  rw [Fault.shown_masked]
  rfl

/-- The reasons of a rejection as they are shown. -/
def Rejection.masked : Rejection → Rejection
  | .unconverted fault => .unconverted fault
  | .rejected faults => .rejected (faults.map Fault.masked)

section Gather

variable {reading : (f : Field) → Except (List Fault) f.Content} {more : List Fault}

theorem faultsOf_mapError {α : Type} (g : Fault → Fault) (x : Except (List Fault) α) :
    faultsOf (x.mapError (List.map g)) = (faultsOf x).map g := by
  cases x <;> rfl

/-- Faults may be changed one by one before or after they are gathered. -/
theorem gather_mapError (g : Fault → Fault) :
    gather (fun f => (reading f).mapError (List.map g)) (more.map g) =
      (gather reading more).mapError (List.map g) := by
  have hok : ∀ s, gather (fun f => (reading f).mapError (List.map g)) (more.map g) = .ok s ↔
      gather reading more = .ok s := by
    intro s
    rw [gather_eq_ok, gather_eq_ok]
    simp only [Result.mapError_eq_ok, List.map_eq_nil_iff]
  -- masked readings are gathered to settings if the readings are, and otherwise to masked faults
  cases hgather : gather reading more with
  | ok s => exact (hok s).2 hgather
  | error faults =>
    cases hmapped : gather (fun f => (reading f).mapError (List.map g)) (more.map g) with
    | ok s =>
      rw [(hok s).1 hmapped] at hgather
      cases hgather
    | error faults' =>
      rw [faults_of_gather hmapped, faults_of_gather hgather]
      simp only [faultsOf_mapError]
      show _ = Except.error (List.map g _)
      rw [List.map_append, List.map_flatMap]

end Gather

/-! ## The values of the fields -/

section Document

variable {env env' : Environment} {entries entries' : Entries}

/-- What stands in for a secret that a document lacks is a text or nothing. -/
theorem fallback_of_isSecret (env : Environment) {f : Field} (hf : f.isSecret = true) :
    ∃ v, fallback env f = .ok v ∧ v.IsOptionalText := by
  cases f <;> cases hf
  case password =>
    refine ⟨_, fallback_password env, ?_⟩
    split
    · exact .inl rfl
    · exact .inr ⟨_, rfl⟩
  case passwordCommand => exact ⟨.null, rfl, .inl rfl⟩

theorem given_of_not_isSecret (henv : env.AlikeButSecret env')
    (hentries : entries.AlikeButSecrets entries') {f : Field} (hf : f.isSecret = false) :
    given env entries f = given env' entries' f := by
  have hother : f ≠ .password := by
    rintro rfl
    cases hf
  unfold given
  rw [hentries.get?_of_not_isSecret hf, fallback_of_ne henv hother]

/-- A secret is given in both, by texts or nothing in both or in neither. -/
theorem given_of_isSecret (env env' : Environment) (hentries : entries.AlikeButSecrets entries')
    {f : Field} (hf : f.isSecret = true) : ∃ v w, given env entries f = .ok v ∧
      given env' entries' f = .ok w ∧ (v.IsOptionalText ↔ w.IsOptionalText) := by
  obtain ⟨hnone, hnone'⟩ | ⟨v, w, hv, hw, hkind⟩ := hentries.get?_cases f.name
  · obtain ⟨v, hv, hoptional⟩ := fallback_of_isSecret env hf
    obtain ⟨w, hw, hoptional'⟩ := fallback_of_isSecret env' hf
    exact ⟨v, w, (given_of_get?_none hnone).trans hv, (given_of_get?_none hnone').trans hw,
      iff_of_true hoptional hoptional'⟩
  · exact ⟨v, w, by rw [given, hv], by rw [given, hw], hkind⟩

theorem conversionFault?_given (henv : env.AlikeButSecret env')
    (hentries : entries.AlikeButSecrets entries') (f : Field) :
    conversionFault? (given env entries f) = conversionFault? (given env' entries' f) := by
  cases hf : f.isSecret with
  | false => rw [given_of_not_isSecret henv hentries hf]
  | true =>
    obtain ⟨v, w, hv, hw, -⟩ := given_of_isSecret env env' hentries hf
    rw [hv, hw]
    rfl

/-- What is read of a field is the same but for the content of a secret, if the faults are
masked. -/
theorem contentOf_masked_alike (henv : env.AlikeButSecret env')
    (hentries : entries.AlikeButSecrets entries') (f : Field) :
    Result.Alike (fun content content' => f.isSecret = false → content = content')
      ((contentOf env entries f).mapError (List.map Fault.masked))
      ((contentOf env' entries' f).mapError (List.map Fault.masked)) := by
  cases hf : f.isSecret with
  | false =>
    unfold contentOf
    rw [given_of_not_isSecret henv hentries hf]
    exact .refl (fun _ _ => rfl) _
  | true =>
    obtain ⟨v, w, hv, hw, hkind⟩ := given_of_isSecret env env' hentries hf
    rw [contentOf_of_given hv, contentOf_of_given hw]
    obtain ⟨haccepted, content, hcheck⟩ | ⟨hrefused, hcheck⟩ := check_of_isSecret hf v
    · obtain ⟨-, content', hcheck'⟩ | ⟨hrefused', -⟩ := check_of_isSecret hf w
      · rw [hcheck, hcheck']
        exact .ok nofun
      · exact absurd (hkind.1 haccepted) hrefused'
    · obtain ⟨haccepted', -⟩ | ⟨-, hcheck'⟩ := check_of_isSecret hf w
      · exact absurd (hkind.2 haccepted') hrefused
      -- the two faults differ in the value alone, which is masked in both
      · have hmasked : ∀ u, (⟨[f.name], .text, u⟩ : Fault).masked =
            ⟨[f.name], .text, .text "********"⟩ := by
          intro u
          rw [Fault.masked, shown_of_isSecret hf]
        rw [hcheck, hcheck']
        show Result.Alike _ (.error [_]) (.error [_])
        rw [hmasked v, hmasked w]
        exact .error _

/-! ## Reading -/

theorem mapError_rejected_masked {α : Type} (x : Except (List Fault) α) :
    (x.mapError Rejection.rejected).mapError Rejection.masked =
      (x.mapError (List.map Fault.masked)).mapError .rejected := by
  cases x <;> rfl

/-- Two documents that differ in the secrets alone are rejected for the same reasons as they are
shown, or read as settings that differ in the secrets alone. -/
theorem readEntries_masked_alike (henv : env.AlikeButSecret env')
    (hentries : entries.AlikeButSecrets entries') :
    Result.Alike (fun s t : Settings => ∀ f : Field, f.isSecret = false → s.get f = t.get f)
      ((readEntries env entries).mapError Rejection.masked)
      ((readEntries env' entries').mapError Rejection.masked) := by
  unfold readEntries
  rw [funext (conversionFault?_given henv hentries), hentries.unknownFaults]
  split
  · exact .error _
  · rw [mapError_rejected_masked, mapError_rejected_masked, ← gather_mapError, ← gather_mapError]
    exact (gather_alike _ (contentOf_masked_alike henv hentries)).mapError _

/-- The failure that a rejection is reported by. -/
def Rejection.failure (source : String) : Rejection → Failure
  | .unconverted fault => .configuration (.unconverted source fault)
  | .rejected faults =>
    if faults.any fun fault => fault.shown.hasOversized then .number .oversized
    else .configuration (.rejected source faults)

theorem parse_of_rejection {source : String} {rejection : Rejection}
    (h : readEntries env entries = .error rejection) :
    parse env source (.table entries) = .error (rejection.failure source) := by
  have hread : read env (.table entries) = .error rejection := h
  rw [parse, hread]
  cases rejection with
  | unconverted fault => rfl
  | rejected faults =>
    unfold Rejection.failure
    dsimp only
    split <;> rfl

theorem message_rejected_masked (source : String) (faults : List Fault) :
    (ConfigurationFault.rejected source (faults.map Fault.masked)).message =
      (ConfigurationFault.rejected source faults).message := by
  have hdescriptions :
      (faults.map Fault.masked).map Fault.describe = faults.map Fault.describe := by
    rw [List.map_map]
    exact List.map_congr_left fun fault _ => fault.describe_masked
  have hmessage : ∀ reported, (ConfigurationFault.rejected source reported).message =
      rejectionMessage source (reported.map Fault.describe) := fun _ => rfl
  rw [hmessage, hmessage, hdescriptions]

/-- A failure is reported with the reasons as they are shown. -/
theorem Rejection.failure_masked (rejection : Rejection) (source : String) :
    (rejection.masked.failure source).kind = (rejection.failure source).kind ∧
    (rejection.masked.failure source).message = (rejection.failure source).message := by
  cases rejection with
  | unconverted fault => exact ⟨rfl, rfl⟩
  | rejected faults =>
    have hany : ((faults.map Fault.masked).any fun fault => fault.shown.hasOversized) =
        faults.any fun fault => fault.shown.hasOversized := by
      simp only [List.any_map, Function.comp_def, Fault.shown_masked]
    unfold Rejection.masked Rejection.failure
    dsimp only
    rw [hany]
    split
    · exact ⟨rfl, rfl⟩
    · exact ⟨rfl, message_rejected_masked source faults⟩

end Document

/-! ## What is observed -/

theorem literal_congr {s t : Settings} (h : ∀ f : Field, f.isSecret = false → s.get f = t.get f) :
    s.literal = t.literal := by
  have hscheme : s.scheme = t.scheme := h .scheme rfl
  have hcertificate : s.clientCertificate = t.clientCertificate := h .clientCertificate rfl
  have hfield : ∀ f : Field, f.isSecret = false → s.fieldLiteral f = t.fieldLiteral f := by
    intro f hf
    have hvalue := h f hf
    cases f
    case clientCertificate =>
      unfold fieldLiteral
      rw [hcertificate]
      cases t.clientCertificate <;> simp only [hvalue]
    all_goals simp only [fieldLiteral, hscheme, hvalue]
  unfold literal
  congr 3
  refine List.map_congr_left fun f hf => ?_
  rw [hfield f (by simpa using (List.mem_filter.1 hf).2)]

/-- Two outcomes of reading that differ in the secrets of the settings at most: failures of one kind
with the same words, or settings that are shown alike. -/
inductive Undisclosed : Except Failure Settings → Except Failure Settings → Prop
  | rejected {failure failure' : Failure} (kind : failure.kind = failure'.kind)
    (message : failure.message = failure'.message) : Undisclosed (.error failure) (.error failure')
  | accepted {s t : Settings} (others : ∀ f : Field, f.isSecret = false → s.get f = t.get f)
    (literal : s.literal = t.literal) : Undisclosed (.ok s) (.ok t)

section Observed

variable {env env' : Environment} {entries entries' : Entries}

/-- Reading tells two documents apart that differ in the secrets alone by the secrets of the
settings at most. -/
theorem undisclosed_of_alike (source : String) (henv : env.AlikeButSecret env')
    (hentries : entries.AlikeButSecrets entries') :
    Undisclosed (parse env source (.table entries)) (parse env' source (.table entries')) := by
  have hread := readEntries_masked_alike henv hentries
  -- the masked reasons are the same of both, and the words of a rejection show no others
  cases hx : readEntries env entries with
  | ok s =>
    rw [hx] at hread
    obtain ⟨t, ht, hothers⟩ := hread.exists_ok
    rw [parse_eq_ok.2 hx, parse_eq_ok.2 (Result.mapError_eq_ok.1 ht)]
    exact .accepted hothers (literal_congr hothers)
  | error rejection =>
    rw [hx] at hread
    obtain ⟨rejection', hy, hmasked⟩ := Result.mapError_eq_error.1 hread.eq_error
    rw [parse_of_rejection hx, parse_of_rejection hy]
    obtain ⟨hkind, hmessage⟩ := rejection.failure_masked source
    obtain ⟨hkind', hmessage'⟩ := rejection'.failure_masked source
    rw [hmasked] at hkind' hmessage'
    exact .rejected (hkind.symm.trans hkind') (hmessage.symm.trans hmessage')

/-- A value other than that of a secret holds a number of too many digits to be shown. -/
def HoldOversized (entries : Entries) : Prop :=
  ∃ entry ∈ entries, (∀ f : Field, f.isSecret = true → f.name ≠ entry.1) ∧
    entry.2.hasOversized = true

/-- A rejection is a failure of the configuration, unless a value holds a number that cannot be
shown. -/
theorem holdOversized_of_kind {source : String} {failure : Failure}
    (h : parse env source (.table entries) = .error failure)
    (hkind : failure.kind.isConfiguration = false) :
    failure = .number .oversized ∧ HoldOversized entries := by
  obtain ⟨rfl, faults, hread, fault, hmem, hshown⟩ := parse_error_iff_shown.1 ⟨h, hkind⟩
  refine ⟨rfl, Classical.byContradiction fun hnone => ?_⟩
  have hwritten : ∀ entry ∈ entries, (∀ f : Field, f.isSecret = true → f.name ≠ entry.1) →
      entry.2.hasOversized = false := by
    intro entry hentry hplain
    rw [← Bool.not_eq_true]
    exact fun hoversized => hnone ⟨entry, hentry, hplain, hoversized⟩
  rw [hasOversized_of_readEntries hwritten hread hmem] at hshown
  cases hshown

/-- Two documents that differ in the secrets alone are rejected by failures of one kind with the
same words, or read as settings that differ in the secrets alone and are shown alike.  The failure
is one of the configuration unless another value holds a number that cannot be shown. -/
theorem parse_undisclosed (source : String) (henv : env.AlikeButSecret env')
    (hentries : entries.AlikeButSecrets entries') :
    Undisclosed (parse env source (.table entries)) (parse env' source (.table entries')) ∧
    ∀ failure, parse env source (.table entries) = .error failure →
      failure.kind.isConfiguration = false →
        failure = .number .oversized ∧ HoldOversized entries :=
  ⟨undisclosed_of_alike source henv hentries, fun _ => holdOversized_of_kind⟩

/-- A document whose port is no number and whose password may be no text. -/
def refusedDocument (password : Value) (command : String) : Entries :=
  [("password_command", .text command), ("port", .text "x"), ("password", password)]

/-- A list and a number for the password are masked alike. -/
theorem parse_undisclosed_masked :
    (refusedDocument (.list [.text "alpha"]) "pass a").AlikeButSecrets
      (refusedDocument (.int 7) "pass b") ∧
    ∃ failure failure',
      parse .empty "<mapping>" (.table (refusedDocument (.list [.text "alpha"]) "pass a")) =
        .error failure ∧
      parse .empty "<mapping>" (.table (refusedDocument (.int 7) "pass b")) = .error failure' ∧
      failure.kind = failure'.kind ∧ failure.message = failure'.message ∧
      failure.message = "Invalid provider config in <mapping>: " ++
        "port: Input should be a valid integer, unable to parse string as an integer (got 'x'); " ++
        "password: Input should be a valid string (got '********')" := by
  have hentries : (refusedDocument (.list [.text "alpha"]) "pass a").AlikeButSecrets
      (refusedDocument (.int 7) "pass b") := by
    refine .secret (f := .passwordCommand) rfl ?_ (.same _ (.secret (f := .password) rfl ?_ .nil))
    · exact iff_of_true (.inr ⟨_, rfl⟩) (.inr ⟨_, rfl⟩)
    · simp [Value.IsOptionalText]
  have henv : Environment.empty.AlikeButSecret .empty := ⟨fun _ _ => rfl, .inl rfl⟩
  obtain ⟨failure, failure', hx, hy, hmessage⟩ : ∃ failure failure',
      parse .empty "<mapping>" (.table (refusedDocument (.list [.text "alpha"]) "pass a")) =
        .error failure ∧
      parse .empty "<mapping>" (.table (refusedDocument (.int 7) "pass b")) = .error failure' ∧
      failure.message = "Invalid provider config in <mapping>: " ++
        "port: Input should be a valid integer, unable to parse string as an integer (got 'x'); " ++
        "password: Input should be a valid string (got '********')" :=
    ⟨_, _, rfl, rfl, by decide +kernel⟩
  have hundisclosed := (parse_undisclosed "<mapping>" henv hentries).1
  rw [hx, hy] at hundisclosed
  cases hundisclosed with
  | rejected hkind hsame => exact ⟨hentries, failure, failure', hx, hy, hkind, hsame, hmessage⟩

/-- A document with a password, and a number of too many digits for the host. -/
def oversizedDocument (password : String) : Entries :=
  [("password", .text password), ("host", .int (Nat.pow 10 Numeral.digitLimit : Nat))]

theorem parse_oversizedDocument (source password : String) :
    parse .empty source (.table (oversizedDocument password)) = .error (.number .oversized) := by
  have hread : readEntries .empty (oversizedDocument password) =
      .error (.rejected [⟨["host"], .text, .int (Nat.pow 10 Numeral.digitLimit : Nat)⟩]) := rfl
  have hoversized : (Value.int (Nat.pow 10 Numeral.digitLimit : Nat)).hasOversized = true := by
    rw [Value.hasOversized, Numeral.isOversized, Int.natAbs_natCast]
    exact decide_eq_true (Nat.le_refl _)
  exact (parse_error_iff_shown.2 ⟨rfl, _, hread, _, .head _, hoversized⟩).1

/-- A number that cannot be shown keeps a rejection from being one of the configuration, whatever
the secrets are. -/
theorem not_always_configuration : ¬ ∀ (env env' : Environment) (source : String)
    (entries entries' : Entries), env.AlikeButSecret env' → entries.AlikeButSecrets entries' →
    (∃ failure failure', parse env source (.table entries) = .error failure ∧
      parse env' source (.table entries') = .error failure' ∧
      failure.kind.isConfiguration = true ∧ failure'.kind.isConfiguration = true ∧
      failure.message = failure'.message) ∨
    ∃ s t, parse env source (.table entries) = .ok s ∧ parse env' source (.table entries') = .ok t ∧
      (∀ f : Field, f.isSecret = false → s.get f = t.get f) ∧ s.literal = t.literal := by
  intro h
  have hentries : (oversizedDocument "alpha").AlikeButSecrets (oversizedDocument "beta") :=
    .secret (f := .password) rfl (iff_of_true (.inr ⟨_, rfl⟩) (.inr ⟨_, rfl⟩)) (.same _ .nil)
  have hparse := parse_oversizedDocument "<mapping>" "alpha"
  obtain ⟨failure, -, hfailure, -, hkind, -⟩ | ⟨s, -, hs, -⟩ :=
    h .empty .empty "<mapping>" _ _ ⟨fun _ _ => rfl, .inl rfl⟩ hentries
  · rw [hparse] at hfailure
    cases hfailure
    cases hkind
  · rw [hparse] at hs
    cases hs

end Observed

end Settings

end PostgresAccess
