import PostgresAccess.Proofs.Numeral.Runs
import PostgresAccess.Proofs.Settings.Precedence
import PostgresAccess.Proofs.Text.Utf8
import PostgresAccess.Proofs.Toml.Digits
import PostgresAccess.Settings.Source

/-!
# How loading fails

Almost everything that can be wrong with a file of attributes is reported as a failure of the
configuration.  Four things are not, and end the loading with a failure of another kind: a path that
no file can have, bytes that are no text, a number of too many digits in the document, and a
rejected value that holds a number of too many digits to be shown.  `Settings.Unreported` lists
them, and `Settings.load_error_iff_unreported` says that there are no others.
-/

namespace PostgresAccess

open Numeral (digitLimit)
open Result

/-! ## Characters of a path -/

namespace Path

variable {c : Char}

theorem mem_splitParts {cs : List Char} (hc : c ≠ '/') :
    (∃ part ∈ splitParts cs, c ∈ part) ↔ c ∈ cs := by
  induction cs with
  | nil => simp [splitParts]
  | cons d rest ih =>
    by_cases hd : d = '/'
    · subst hd
      simpa [splitParts, hc] using ih
    · rw [List.mem_cons, ← ih]
      cases hparts : splitParts rest with
      | nil => simp [splitParts, hd, hparts]
      | cons part parts => simp [splitParts, hd, hparts, or_assoc]

theorem mem_intercalate {separator : List Char} {parts : List (List Char)}
    (hc : c ∉ separator) : c ∈ separator.intercalate parts ↔ ∃ part ∈ parts, c ∈ part := by
  induction parts with
  | nil => simp [List.intercalate]
  | cons part parts ih =>
    cases parts with
    | nil => simp [List.intercalate]
    | cons next later =>
      simp only [List.intercalate, List.intersperse_cons_cons, List.flatten_cons,
        List.mem_append, hc, false_or, List.mem_cons, exists_eq_or_imp] at ih ⊢
      rw [ih]

theorem not_mem_root {path : String} (hc : c ≠ '/') : c ∉ (root path).toList := by
  unfold root
  split <;> simp [hc]

/-- The normal form of a path keeps every character that means nothing to it. -/
theorem mem_normalise {path : String} (hslash : c ≠ '/') (hdot : c ≠ '.') :
    c ∈ (normalise path).toList ↔ c ∈ path.toList := by
  have hparts : c ∈ ("/".intercalate (parts path)).toList ↔ c ∈ path.toList := by
    rw [String.toList_intercalate, mem_intercalate (by simpa using hslash),
      ← mem_splitParts hslash]
    simp only [parts, List.map_map, Function.comp_def, String.toList_ofList, List.map_id']
    constructor
    · rintro ⟨part, hpart, hc⟩
      exact ⟨part, (List.mem_filter.1 hpart).1, hc⟩
    · rintro ⟨part, hpart, hc⟩
      refine ⟨part, List.mem_filter.2 ⟨hpart, ?_⟩, hc⟩
      have hne : part ≠ [] := List.ne_nil_of_mem hc
      have hnot : part ≠ ['.'] := by
        rintro rfl
        exact hdot (List.mem_singleton.1 hc)
      simp [hne, hnot]
  have htext : c ∈ (root path ++ "/".intercalate (parts path)).toList ↔ c ∈ path.toList := by
    rw [String.toList_append, List.mem_append, hparts]
    exact or_iff_right (not_mem_root hslash)
  unfold normalise
  dsimp only
  split
  -- nothing is left of a path of dots and slashes, and then the path is a dot
  · rename_i hempty
    rw [hempty] at htext
    rw [← htext]
    simp [hdot]
  · exact htext

end Path

/-! ## Numbers that can be written -/

theorem Numeral.isOversized_of_readInteger {text : String} {n : Int}
    (h : readInteger text = .ok n) : isOversized n = false := by
  unfold readInteger at h
  dsimp only at h
  split at h
  · cases h
  · rename_i digits after hrun
    split at h
    · cases h
    · rename_i hfew
      split at h
      · cases h
        have hlt := ofDigits_lt_of_digitRun hrun
        have hbound : (signed (splitSign (text.toList.dropWhile Text.isSpace)).1
            (Text.ofDigits 10 digits)).natAbs < Nat.pow 10 digits.length := by
          unfold signed
          split <;> simpa using hlt
        exact isOversized_of_lt hbound (by omega)
      · cases h

namespace Settings

variable {env : Environment} {readFile : FileReader} {path : String} {failure : Failure}

theorem hasOversized_of_fallback {f : Field} {v : Value} (h : fallback env f = .ok v) :
    v.hasOversized = false := by
  have hstandard : (standard f).hasOversized = false := by cases f <;> decide +kernel
  unfold fallback at h
  split at h
  · cases h
    exact hstandard
  · split at h
    · cases h
      exact hstandard
    · obtain ⟨-, hn⟩ | - | - | - := convert_eq_ok.1 h
      · exact Numeral.isOversized_of_readInteger hn
      all_goals rfl

section Written

variable {entries : Entries} {f : Field} {faults : List Fault} {fault : Fault}

theorem hasOversized_of_given
    (hwritten : ∀ v, entries.get? f.name = some v → v.hasOversized = false) {v : Value}
    (h : given env entries f = .ok v) : v.hasOversized = false := by
  unfold given at h
  split at h
  · rename_i w hfound
    cases h
    exact hwritten _ hfound
  · exact hasOversized_of_fallback h

/-- The faults of a field are about the value that it is given, which they show unless it is a
secret. -/
theorem hasOversized_of_contentOf
    (hwritten : f.isSecret = false → ∀ v, entries.get? f.name = some v → v.hasOversized = false)
    (hmem : fault ∈ faultsOf (contentOf env entries f)) : fault.shown.hasOversized = false := by
  cases hcontent : contentOf env entries f with
  | ok content => simp [hcontent, faultsOf] at hmem
  | error found =>
    rw [hcontent] at hmem
    unfold contentOf at hcontent
    split at hcontent
    · rename_i v hv
      -- a fault of a secret shows the mask, and any other one its value
      cases hsecret : f.isSecret with
      | true =>
        obtain ⟨-, content, hcheck⟩ | ⟨-, hcheck⟩ := check_of_isSecret hsecret v <;>
          rw [hcheck] at hcontent <;> cases hcontent
        rw [List.mem_singleton.1 hmem, shown_of_isSecret hsecret]
        rfl
      | false =>
        have hv' := hasOversized_of_given (hwritten hsecret) hv
        exact Fault.hasOversized_shown ((reports_of_check hv' hcontent).2 fault hmem)
    · cases hcontent
      cases hmem

/-- The faults of a document whose values can be written, except perhaps for secrets, can be
shown. -/
theorem hasOversized_of_readEntries
    (hwritten : ∀ entry ∈ entries, (∀ f : Field, f.isSecret = true → f.name ≠ entry.1) →
      entry.2.hasOversized = false)
    (h : readEntries env entries = .error (.rejected faults)) (hmem : fault ∈ faults) :
    fault.shown.hasOversized = false := by
  unfold readEntries at h
  split at h
  · cases h
  · obtain ⟨gathered, hgathered, heq⟩ := mapError_eq_error.1 h
    cases heq
    rw [faults_of_gather hgathered, List.mem_append, List.mem_flatMap] at hmem
    obtain ⟨f, -, hfault⟩ | hunknown := hmem
    · refine hasOversized_of_contentOf (fun hf v hfound => ?_) hfault
      refine hwritten _ (Entries.mem_of_get? hfound) fun g hg hname => ?_
      rw [Field.name_injective hname, hf] at hg
      cases hg
    -- the key of an unknown entry is that of no field, so of no secret either
    · obtain ⟨entry, hentry, rfl⟩ := List.mem_map.1 hunknown
      obtain ⟨hentry, hfield⟩ := List.mem_filter.1 hentry
      refine Fault.hasOversized_shown (hwritten entry hentry fun g _ hname => ?_)
      rw [← hname, Field.ofName?_name] at hfield
      cases hfield

end Written

/-! ## Failures that are not reported -/

/-- There is a file at a path, and it holds some bytes. -/
def Opens (readFile : FileReader) (path : String) (bytes : List UInt8) : Prop :=
  '\x00' ∉ path.toList ∧ readFile (Path.normalise path) = .ok bytes

/-- The failures of loading that are no failures of the configuration.  The variables do not matter
to them but for the values that are rejected. -/
inductive Unreported (env : Environment) (readFile : FileReader) (path : String) : Failure → Prop
  /-- The path holds the character that ends one. -/
  | path (hnull : '\x00' ∈ path.toList) : Unreported env readFile path .embeddedNull
  /-- The bytes are those of no text. -/
  | bytes {bytes : List UInt8} {fault : Text.Utf8.Fault} (hopens : Opens readFile path bytes)
    (hbytes : ∀ text, Text.Utf8.encode text ≠ bytes)
    (hfault : Text.Utf8.decode bytes = .error fault) :
    Unreported env readFile path (.undecodable fault)
  /-- The document has a number of too many digits. -/
  | digits {text : String} {complaint : Toml.Complaint} {digits : Nat}
    (hopens : Opens readFile path (Text.Utf8.encode text))
    (hread : Toml.read text = .error complaint)
    (hproblem : complaint.problem = .number (.tooLong digits)) (hdigits : digitLimit < digits) :
    Unreported env readFile path (.number (.tooLong digits))
  /-- A value of the document is rejected and holds a number of too many digits to be shown. -/
  | shown {text : String} {document entries : Entries} {faults : List Fault} {fault : Fault}
    (hopens : Opens readFile path (Text.Utf8.encode text))
    (hread : Toml.read text = .ok document)
    (hattributes : attributes (Path.normalise path) document = .ok (.table entries))
    (hrejected : readEntries env entries = .error (.rejected faults)) (hmem : fault ∈ faults)
    (hshown : fault.shown.hasOversized = true) :
    Unreported env readFile path (.number .oversized)

/-! ## What a file gives -/

section File

variable {data : Value} {document : Entries}

theorem attributesOfFile_of_null (hnull : '\x00' ∈ path.toList) :
    attributesOfFile readFile (Path.normalise path) = .error .embeddedNull := by
  have hmem : '\x00' ∈ (Path.normalise path).toList :=
    (Path.mem_normalise (by decide) (by decide)).2 hnull
  exact if_pos (List.contains_iff_mem.2 hmem)

theorem attributesOfFile_of_not_null (hnull : '\x00' ∉ path.toList) :
    attributesOfFile readFile (Path.normalise path) =
      match readFile (Path.normalise path) with
      | .ok bytes => attributesOfBytes (Path.normalise path) bytes
      | .error .noSuchFile => .ok (.table [])
      | .error fault => .error (.configuration (.unopened (Path.normalise path) fault)) := by
  have hmem : '\x00' ∉ (Path.normalise path).toList :=
    mt (Path.mem_normalise (by decide) (by decide)).1 hnull
  exact if_neg (mt List.contains_iff_mem.1 hmem)

theorem attributesOfFile_of_opens {bytes : List UInt8} (h : Opens readFile path bytes) :
    attributesOfFile readFile (Path.normalise path) =
      attributesOfBytes (Path.normalise path) bytes := by
  rw [attributesOfFile_of_not_null h.1, h.2]

theorem attributesOfBytes_encode (text : String) :
    attributesOfBytes path (Text.Utf8.encode text) =
      (Toml.read text).mapError (complaintFailure path) >>= attributes path := by
  have hdecode : Text.Utf8.decode (Text.Utf8.encode text) = .ok text :=
    Text.Utf8.decode_eq_ok_iff.2 rfl
  rw [attributesOfBytes, hdecode]
  rfl

theorem attributesOfBytes_of_read {text : String} (h : Toml.read text = .ok document) :
    attributesOfBytes path (Text.Utf8.encode text) = attributes path document := by
  rw [attributesOfBytes_encode, h]
  rfl

theorem attributesOfBytes_of_complaint {text : String} {complaint : Toml.Complaint}
    (h : Toml.read text = .error complaint) :
    attributesOfBytes path (Text.Utf8.encode text) = .error (complaintFailure path complaint) := by
  rw [attributesOfBytes_encode, h]
  rfl

theorem complaintFailure_of_number {complaint : Toml.Complaint} {fault : Numeral.IntegerFault}
    (h : complaint.problem = .number fault) : complaintFailure path complaint = .number fault := by
  rw [complaintFailure, h]

theorem eq_table_of_attributes (h : attributes path document = .ok data) :
    ∃ entries, data = .table entries := by
  unfold attributes at h
  split at h
  · cases h
    exact ⟨_, rfl⟩
  · cases h
    exact ⟨_, rfl⟩
  · cases h

theorem isConfiguration_of_attributes (h : attributes path document = .error failure) :
    failure.kind.isConfiguration = true := by
  unfold attributes at h
  split at h
  · cases h
  · cases h
  · cases h
    rfl

/-- Where a file gives attributes, it is missing or holds the text of a document. -/
theorem exists_text_of_attributesOfFile
    (h : attributesOfFile readFile (Path.normalise path) = .ok data) :
    data = .table [] ∨ ∃ text document entries, Opens readFile path (Text.Utf8.encode text) ∧
      Toml.read text = .ok document ∧
      attributes (Path.normalise path) document = .ok (.table entries) ∧ data = .table entries := by
  by_cases hnull : '\x00' ∈ path.toList
  · rw [attributesOfFile_of_null hnull] at h
    cases h
  · rw [attributesOfFile_of_not_null hnull] at h
    split at h
    · rename_i bytes hbytes
      right
      obtain ⟨text, htext, h⟩ := bind_eq_ok.1 h
      obtain ⟨document, hdocument, hdata⟩ := bind_eq_ok.1 h
      obtain ⟨entries, rfl⟩ := eq_table_of_attributes hdata
      have hencode : Text.Utf8.encode text = bytes :=
        Text.Utf8.decode_eq_ok_iff.1 (mapError_eq_ok.1 htext)
      exact ⟨text, document, entries, ⟨hnull, hencode ▸ hbytes⟩, mapError_eq_ok.1 hdocument,
        hdata, rfl⟩
    · cases h
      exact .inl rfl
    · cases h

/-- Where a file gives no attributes, this is reported except for the path, the bytes and the
numbers of its document. -/
theorem unreported_of_attributesOfFile
    (h : attributesOfFile readFile (Path.normalise path) = .error failure)
    (hkind : failure.kind.isConfiguration = false) : Unreported env readFile path failure := by
  by_cases hnull : '\x00' ∈ path.toList
  · rw [attributesOfFile_of_null hnull] at h
    cases h
    exact .path hnull
  · rw [attributesOfFile_of_not_null hnull] at h
    split at h
    · rename_i bytes hbytes
      cases hdecode : Text.Utf8.decode bytes with
      | error fault =>
        rw [attributesOfBytes, hdecode] at h
        cases h
        have hnone : ∀ text, Text.Utf8.encode text ≠ bytes :=
          Text.Utf8.exists_decode_eq_error_iff.1 ⟨fault, hdecode⟩
        exact .bytes ⟨hnull, hbytes⟩ hnone hdecode
      | ok text =>
        obtain rfl : Text.Utf8.encode text = bytes := Text.Utf8.decode_eq_ok_iff.1 hdecode
        cases hread : Toml.read text with
        | error complaint =>
          rw [attributesOfBytes_of_complaint hread] at h
          cases h
          unfold complaintFailure at hkind ⊢
          split
          · rename_i fault hproblem
            obtain ⟨digits, rfl, hdigits⟩ := Toml.exists_tooLong_of_read hread hproblem
            exact .digits ⟨hnull, hbytes⟩ hread hproblem hdigits
          · rename_i hproblem
            simp [Failure.kind, FailureKind.isConfiguration] at hkind
        | ok document =>
          rw [attributesOfBytes_of_read hread] at h
          have hconfiguration := isConfiguration_of_attributes h
          rw [hkind] at hconfiguration
          cases hconfiguration
    · cases h
    · cases h
      cases hkind

end File

/-! ## What is reported -/

/-- All that is wrong with the values of a document is reported, unless one of those that the report
shows cannot be written. -/
theorem parse_error_iff_shown {source : String} {entries : Entries} :
    parse env source (.table entries) = .error failure ∧ failure.kind.isConfiguration = false ↔
      failure = .number .oversized ∧ ∃ faults, readEntries env entries = .error (.rejected faults) ∧
        ∃ fault ∈ faults, fault.shown.hasOversized = true := by
  have hread : read env (.table entries) = readEntries env entries := rfl
  rw [parse, hread]
  constructor
  · rintro ⟨h, hkind⟩
    split at h
    · cases h
    · cases h
      cases hkind
    · rename_i faults hfaults
      split at h
      · rename_i hany
        cases h
        exact ⟨rfl, faults, hfaults, List.any_eq_true.1 hany⟩
      · cases h
        cases hkind
  · rintro ⟨rfl, faults, hfaults, hshown⟩
    rw [hfaults]
    exact ⟨if_pos (List.any_eq_true.2 hshown), rfl⟩

theorem unreported_of_parse {data : Value}
    (hfile : attributesOfFile readFile (Path.normalise path) = .ok data)
    (h : parse env (Path.normalise path) data = .error failure)
    (hkind : failure.kind.isConfiguration = false) : Unreported env readFile path failure := by
  obtain rfl | ⟨text, document, entries, hopens, hread, hattributes, rfl⟩ :=
    exists_text_of_attributesOfFile hfile
  · -- without a document only variables can be rejected, and these can be written
    obtain ⟨-, faults, hfaults, fault, hmem, hshown⟩ := parse_error_iff_shown.1 ⟨h, hkind⟩
    rw [hasOversized_of_readEntries (by simp) hfaults hmem] at hshown
    cases hshown
  · obtain ⟨rfl, faults, hfaults, fault, hmem, hshown⟩ := parse_error_iff_shown.1 ⟨h, hkind⟩
    exact .shown hopens hread hattributes hfaults hmem hshown

/-- Loading ends with a failure that is none of the configuration exactly where that is listed. -/
theorem load_error_iff_unreported (env : Environment) (readFile : FileReader) (path : String)
    (failure : Failure) :
    load env readFile path = .error failure ∧ failure.kind.isConfiguration = false ↔
      Unreported env readFile path failure := by
  have hload : load env readFile path =
      attributesOfFile readFile (Path.normalise path) >>= parse env (Path.normalise path) := rfl
  rw [hload]
  constructor
  · rintro ⟨h, hkind⟩
    cases hfile : attributesOfFile readFile (Path.normalise path) with
    | error found =>
      rw [hfile] at h
      cases h
      exact unreported_of_attributesOfFile hfile hkind
    | ok data =>
      rw [hfile] at h
      exact unreported_of_parse hfile h hkind
  · rintro (hnull | ⟨hopens, -, hfault⟩ | ⟨hopens, hread, hproblem, -⟩ |
      ⟨hopens, hread, hattributes, hrejected, hmem, hshown⟩)
    · rw [attributesOfFile_of_null hnull]
      exact ⟨rfl, rfl⟩
    · rw [attributesOfFile_of_opens hopens, attributesOfBytes, hfault]
      exact ⟨rfl, rfl⟩
    · rw [attributesOfFile_of_opens hopens, attributesOfBytes_of_complaint hread,
        complaintFailure_of_number hproblem]
      exact ⟨rfl, rfl⟩
    · rw [attributesOfFile_of_opens hopens, attributesOfBytes_of_read hread, hattributes]
      exact parse_error_iff_shown.2 ⟨rfl, _, hrejected, _, hmem, hshown⟩

/-- A byte with which no character starts makes loading fail otherwise than by the configuration. -/
theorem not_load_reported : ¬ ∀ env readFile path failure,
    load env readFile path = .error failure → failure.kind.isConfiguration = true := by
  intro h
  have hload : load .empty (fun _ => .ok [0xFF]) "c.toml" =
      .error (.undecodable ⟨.start, 0xFF, 0, 1⟩) := rfl
  cases h _ _ _ _ hload

end Settings

end PostgresAccess
