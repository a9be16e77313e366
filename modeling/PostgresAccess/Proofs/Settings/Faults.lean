import PostgresAccess.Proofs.Entries
import PostgresAccess.Proofs.Kind
import PostgresAccess.Proofs.Result
import PostgresAccess.Settings.Rule

/-!
# What a check reports

A check that refuses a value reports at least one fault, and every fault shows the value or a part
of it, so that it can be written if the value can (`Settings.reports_of_check`).  Most fields report
one fault of the value itself; the certificate reports those of its paths and of its other keys.

A secret field accepts a text or nothing, reports anything else by one fault
(`Settings.check_of_isSecret`), and shows a mask for it, whatever it was.
-/

namespace PostgresAccess

theorem Value.hasOversized_of_mem {entries : Entries} {key : String} {v : Value}
    (h : (Value.table entries).hasOversized = false) (hmem : (key, v) ∈ entries) :
    v.hasOversized = false := by
  rw [Value.hasOversized] at h
  induction entries with
  | nil => cases hmem
  | cons entry rest ih =>
    obtain ⟨k, w⟩ := entry
    rw [anyEntryOversized, Bool.or_eq_false_iff] at h
    rcases List.mem_cons.1 hmem with hhead | htail
    · cases hhead
      exact h.1
    · exact ih h.2 htail

namespace Settings

open Result

/-- Whether faults are the report of a refused value: there are some, and they can be written. -/
def AreReport (faults : List Fault) : Prop :=
  faults ≠ [] ∧ ∀ fault ∈ faults, fault.input.hasOversized = false

theorem areReport_singleton {fault : Fault} (h : fault.input.hasOversized = false) :
    AreReport [fault] := by
  refine ⟨List.cons_ne_nil _ _, fun other hother => ?_⟩
  rw [List.mem_singleton.1 hother]
  exact h

/-! ## Certificates -/

section Certificate

variable {entries : Entries} {key : String}

theorem mem_faultOf {α : Type} {reading : Except Fault α} {fault : Fault} :
    fault ∈ faultOf reading ↔ reading = .error fault := by
  cases reading <;> simp [faultOf, eq_comm]

/-- A path that is missing is reported with the table, and any other with its value. -/
theorem hasOversized_of_certificatePath (hentries : (Value.table entries).hasOversized = false)
    {fault : Fault} (h : certificatePath entries key = .error fault) :
    fault.input.hasOversized = false := by
  unfold certificatePath at h
  split at h
  · cases h
    exact hentries
  · rename_i v hv
    obtain ⟨rule, -, rfl⟩ := mapError_eq_error.1 h
    exact Value.hasOversized_of_mem hentries (Entries.mem_of_get? hv)

theorem hasOversized_of_unknownCertificateKeys
    (hentries : (Value.table entries).hasOversized = false) {fault : Fault}
    (h : fault ∈ unknownCertificateKeys entries) : fault.input.hasOversized = false := by
  obtain ⟨⟨k, v⟩, hmem, rfl⟩ := List.mem_map.1 h
  exact Value.hasOversized_of_mem hentries (List.mem_filter.1 hmem).1

theorem reports_of_certificateOfTable (hentries : (Value.table entries).hasOversized = false)
    {faults : List Fault} (h : certificateOfTable entries = .error faults) : AreReport faults := by
  unfold certificateOfTable at h
  split at h
  · cases h
  · rename_i hrefused
    cases h
    constructor
    · intro hnil
      simp only [List.append_eq_nil_iff] at hnil
      -- without any fault both paths would have been read, and the table with them
      obtain ⟨⟨hcert, hkey⟩, hunknown⟩ := hnil
      cases hreadCert : certificatePath entries "cert" with
      | error fault => simp [hreadCert, faultOf] at hcert
      | ok cert =>
        cases hreadKey : certificatePath entries "key" with
        | error fault => simp [hreadKey, faultOf] at hkey
        | ok key => exact hrefused cert key hreadCert hreadKey hunknown
    · intro fault hfault
      simp only [List.mem_append, mem_faultOf] at hfault
      rcases hfault with (hcert | hkey) | hunknown
      · exact hasOversized_of_certificatePath hentries hcert
      · exact hasOversized_of_certificatePath hentries hkey
      · exact hasOversized_of_unknownCertificateKeys hentries hunknown

theorem reports_of_certificateBlockOf {v : Value} (hv : v.hasOversized = false)
    {faults : List Fault} (h : certificateBlockOf v = .error faults) : AreReport faults := by
  cases v with
  | null => cases h
  | table entries => exact reports_of_certificateOfTable hv (map_eq_error.1 h)
  | list values =>
    match values with
    | [] => cases h
    | [only] =>
      have honly : only.hasOversized = false := by
        simpa [Value.hasOversized, anyOversized] using hv
      cases only with
      | null => cases h
      | table entries => exact reports_of_certificateOfTable honly (map_eq_error.1 h)
      | _ =>
        cases h
        exact areReport_singleton honly
    | _ :: _ :: _ =>
      cases h
      exact areReport_singleton hv
  | _ =>
    cases h
    exact areReport_singleton hv

end Certificate

/-! ## All fields -/

theorem reports_of_atField {α : Type} {f : Field} {v : Value} {result : Except Rule α}
    (hv : v.hasOversized = false) {faults : List Fault}
    (h : atField f v result = .error faults) : AreReport faults := by
  obtain ⟨rule, -, rfl⟩ := mapError_eq_error.1 h
  exact areReport_singleton hv

/-- A check that refuses a value reports faults that can be written if the value can. -/
theorem reports_of_check {f : Field} {v : Value} (hv : v.hasOversized = false)
    {faults : List Fault} (h : check f v = .error faults) : AreReport faults := by
  cases f
  case clientCertificate => exact reports_of_certificateBlockOf hv h
  all_goals exact reports_of_atField hv h

/-! ## Secret fields -/

section Secret

variable {f : Field}

theorem check_of_isSecret (hf : f.isSecret = true) (v : Value) :
    (v.IsOptionalText ∧ ∃ content, check f v = .ok content) ∨
    (¬ v.IsOptionalText ∧ check f v = .error [⟨[f.name], .text, v⟩]) := by
  cases f <;> cases hf
  all_goals
    cases v with
    | null => exact .inl ⟨.inl rfl, _, rfl⟩
    | text t => exact .inl ⟨.inr ⟨t, rfl⟩, _, rfl⟩
    | _ => exact .inr ⟨by simp [Value.IsOptionalText], rfl⟩

theorem shown_of_isSecret (hf : f.isSecret = true) (rule : Rule) (v : Value) :
    (⟨[f.name], rule, v⟩ : Fault).shown = .text "********" := by
  have hsecret : (⟨[f.name], rule, v⟩ : Fault).isSecret = true := by
    cases f <;> cases hf <;> rfl
  rw [Fault.shown, if_pos hsecret]

end Secret

theorem Fault.hasOversized_shown {fault : Fault} (h : fault.input.hasOversized = false) :
    fault.shown.hasOversized = false := by
  unfold shown
  split
  · rfl
  · exact h

end Settings

end PostgresAccess
