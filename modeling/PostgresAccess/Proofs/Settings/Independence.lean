import PostgresAccess.Proofs.Settings.Arrangement
import PostgresAccess.Proofs.Settings.Faults
import PostgresAccess.Proofs.Settings.Validity

/-!
# Fields are read independently

Where the environment alone gives settings, a document is read field by field: whether an entry is
accepted, what content it gives and what is reported of it are the same in any document, and the
same as in a document of this entry alone.  The faults of a document are those of its entries, in
the order of `arranged` (`faults_eq_arranged`).  The main result is `parse_fieldwise`.
-/

namespace PostgresAccess.Settings

open Result

/-! ## Entries -/

/-- The faults of an entry. -/
def entryFaults : String × Value → List Fault
  | (key, v) =>
    match Field.ofName? key with
    | some f => faultsOf (check f v)
    | none => [⟨[key], .noSuchField, v⟩]

/-- Whether an entry is accepted: it gives a field a content. -/
def IsAccepted (entry : String × Value) : Prop :=
  ∃ f content, f.name = entry.1 ∧ check f entry.2 = .ok content

theorem entryFaults_of_field (f : Field) (v : Value) :
    entryFaults (f.name, v) = faultsOf (check f v) := by
  simp only [entryFaults, Field.ofName?_name]

theorem areReport_entryFaults {entry : String × Value} (hwritten : entry.2.hasOversized = false)
    (hrefused : ¬ IsAccepted entry) : AreReport (entryFaults entry) := by
  obtain ⟨key, v⟩ := entry
  cases hfield : Field.ofName? key with
  | none =>
    simp only [entryFaults, hfield]
    exact areReport_singleton hwritten
  | some f =>
    rw [Field.ofName?_eq_some] at hfield
    rw [← hfield, entryFaults_of_field]
    cases hcheck : check f v with
    | ok content => exact absurd ⟨f, content, hfield, hcheck⟩ hrefused
    | error faults => exact reports_of_check hwritten hcheck

theorem entryFaults_of_isAccepted {entry : String × Value} (h : IsAccepted entry) :
    entryFaults entry = [] := by
  obtain ⟨key, v⟩ := entry
  obtain ⟨f, content, rfl, hcheck⟩ := h
  rw [entryFaults_of_field, hcheck]
  rfl

/-! ## Gathering -/

section Gather

variable {reading : (f : Field) → Except (List Fault) f.Content} {more faults : List Fault}
  {s : Settings}

/-- Readings are gathered to settings if each of them gives the content of its field and there are
no other faults. -/
theorem gather_eq_ok :
    gather reading more = .ok s ↔ (∀ f, reading f = .ok (s.get f)) ∧ more = [] := by
  constructor
  · intro h
    refine ⟨reading_of_gather h, ?_⟩
    unfold gather at h
    split at h
    · split at h
      · rename_i hempty
        exact List.isEmpty_iff.1 hempty
      · cases h
    · cases h
  · rintro ⟨hreading, rfl⟩
    have hall : ∀ f ∈ Field.all, succeeds (reading f) = true := by
      intro f _
      rw [hreading f]
      rfl
    have hresult : ∀ f, resultOf (reading f) (hall f f.mem_all) = s.get f := fun f =>
      Except.ok.inj ((resultOf_eq (hall f f.mem_all)).symm.trans (hreading f))
    rw [gather, dif_pos hall, if_pos List.isEmpty_nil, funext hresult, ofFields_get]

/-- Readings that are not gathered to settings are gathered to all their faults. -/
theorem faults_of_gather (h : gather reading more = .error faults) :
    faults = (Field.all.flatMap fun f => faultsOf (reading f)) ++ more := by
  unfold gather at h
  split at h
  -- where all readings succeed, the other faults alone are reported, and these are all
  · rename_i hall
    have hnone : (Field.all.flatMap fun f => faultsOf (reading f)) = [] := by
      rw [List.flatMap_eq_nil_iff]
      intro f hf
      rw [resultOf_eq (hall f hf)]
      rfl
    split at h
    · cases h
    · cases h
      rw [hnone, List.nil_append]
  · cases h
    rfl

end Gather

/-! ## Reading a document -/

section Document

variable {env : Environment} {standard s : Settings} {entries : Entries} {source : String}

theorem contentOf_of_get? {f : Field} {v : Value} (h : entries.get? f.name = some v) :
    contentOf env entries f = check f v := by
  simp only [contentOf, given, h]

/-- A field that a document lacks is read as in an empty document. -/
theorem contentOf_of_get?_none {f : Field} (h : entries.get? f.name = none) :
    contentOf env entries f = contentOf env [] f := by
  simp only [contentOf, given, h]
  rfl

/-- If the environment gives settings, its variables convert. -/
theorem readEntries_eq_gather (hstandard : readEntries env [] = .ok standard)
    (entries : Entries) :
    readEntries env entries =
      (gather (contentOf env entries) (unknownFaults entries)).mapError .rejected := by
  have hconverts : ∀ f ∈ Field.all, conversionFault? (given env entries f) = none := by
    intro f _
    obtain ⟨v, hv, -⟩ := check_of_contentOf (contentOf_of_readEntries hstandard f)
    have hfallback : fallback env f = .ok v := hv
    unfold given
    split
    · rfl
    · rw [hfallback]
      rfl
  rw [readEntries, List.findSome?_eq_none_iff.2 hconverts]

/-- The faults of the fields and of the other keys are those of the entries, as arranged. -/
theorem faults_eq_arranged (hstandard : readEntries env [] = .ok standard) :
    (Field.all.flatMap fun f => faultsOf (contentOf env entries f)) ++ unknownFaults entries =
      (arranged entries).flatMap entryFaults := by
  have hknown : (known entries).flatMap entryFaults =
      Field.all.flatMap fun f => faultsOf (contentOf env entries f) := by
    rw [known, List.filterMap_eq_flatMap_toList, List.flatMap_assoc]
    refine List.flatMap_congr fun f _ => ?_
    cases h : entries.get? f.name with
    | none =>
      rw [contentOf_of_get?_none h, contentOf_of_readEntries hstandard f]
      rfl
    | some v =>
      rw [contentOf_of_get? h, ← entryFaults_of_field]
      simp
  -- an entry of no field has the one fault that its key is unknown
  have hunknown : (unknown entries).flatMap entryFaults = unknownFaults entries := by
    rw [unknownFaults, List.map_eq_flatMap]
    refine List.flatMap_congr fun entry hentry => ?_
    obtain ⟨key, v⟩ := entry
    have hfield := Option.isNone_iff_eq_none.1 (List.mem_filter.1 hentry).2
    simp only [entryFaults, hfield]
  rw [arranged, List.flatMap_append, hknown, hunknown]

theorem unknownFaults_eq_nil_iff :
    unknownFaults entries = [] ↔ ∀ entry ∈ entries, ∃ f : Field, f.name = entry.1 := by
  rw [unknownFaults, List.map_eq_nil_iff, List.filter_eq_nil_iff]
  refine forall₂_congr fun entry _ => ?_
  rw [Bool.not_eq_true, Option.isNone_eq_false_iff, Option.isSome_iff_exists]
  simp only [Field.ofName?_eq_some]

/-- A document gives settings exactly when each of its entries is accepted. -/
theorem exists_readEntries_iff (hstandard : readEntries env [] = .ok standard)
    (hdistinct : (entries.map Prod.fst).Nodup) :
    (∃ s, readEntries env entries = .ok s) ↔ ∀ entry ∈ entries, IsAccepted entry := by
  simp only [readEntries_eq_gather hstandard, mapError_eq_ok, gather_eq_ok]
  constructor
  · rintro ⟨s, hcontent, hunknown⟩ ⟨key, v⟩ hmem
    obtain ⟨f, hname⟩ := unknownFaults_eq_nil_iff.1 hunknown _ hmem
    obtain rfl : f.name = key := hname
    have hcheck := hcontent f
    rw [contentOf_of_get? ((Entries.get?_eq_some_iff hdistinct).2 hmem)] at hcheck
    exact ⟨f, s.get f, rfl, hcheck⟩
  · intro haccepted
    have hcontent : ∀ f, ∃ content, contentOf env entries f = .ok content := by
      intro f
      cases hfound : entries.get? f.name with
      | none =>
        rw [contentOf_of_get?_none hfound]
        exact ⟨_, contentOf_of_readEntries hstandard f⟩
      | some v =>
        obtain ⟨g, content, hname, hcheck⟩ := haccepted _ (Entries.mem_of_get? hfound)
        obtain rfl := Field.name_injective hname
        rw [contentOf_of_get? hfound]
        exact ⟨content, hcheck⟩
    have hunknown : unknownFaults entries = [] := by
      rw [unknownFaults_eq_nil_iff]
      intro entry hmem
      obtain ⟨f, content, hname, -⟩ := haccepted entry hmem
      exact ⟨f, hname⟩
    -- each field has a content, so the settings can be put together from them
    choose content hcontent using hcontent
    refine ⟨ofFields content, fun f => ?_, hunknown⟩
    rw [hcontent f, get_ofFields]

theorem parse_eq_ok :
    parse env source (.table entries) = .ok s ↔ readEntries env entries = .ok s := by
  constructor
  · intro h
    obtain ⟨_, heq, hread⟩ := readEntries_of_parse h
    cases heq
    exact hread
  · intro h
    simp only [parse, read, h]

/-- A document of which an entry is not accepted has the faults of its entries. -/
theorem readEntries_of_refused (hstandard : readEntries env [] = .ok standard)
    (hdistinct : (entries.map Prod.fst).Nodup)
    (hrefused : ¬ ∀ entry ∈ entries, IsAccepted entry) :
    readEntries env entries = .error (.rejected ((arranged entries).flatMap entryFaults)) := by
  rw [← exists_readEntries_iff hstandard hdistinct] at hrefused
  rw [readEntries_eq_gather hstandard] at hrefused ⊢
  cases hgather : gather (contentOf env entries) (unknownFaults entries) with
  | ok s =>
    rw [hgather] at hrefused
    exact absurd ⟨s, rfl⟩ hrefused
  | error faults =>
    rw [faults_of_gather hgather, faults_eq_arranged hstandard]
    rfl

theorem hasOversized_of_mem_entryFaults {entry : String × Value} {fault : Fault}
    (hwritten : entry.2.hasOversized = false) (h : fault ∈ entryFaults entry) :
    fault.shown.hasOversized = false := by
  have hrefused : ¬ IsAccepted entry := by
    intro haccepted
    rw [entryFaults_of_isAccepted haccepted] at h
    cases h
  exact Fault.hasOversized_shown ((areReport_entryFaults hwritten hrefused).2 fault h)

theorem parse_of_refused (hstandard : readEntries env [] = .ok standard)
    (hdistinct : (entries.map Prod.fst).Nodup)
    (hwritten : ∀ entry ∈ entries, entry.2.hasOversized = false)
    (hrefused : ¬ ∀ entry ∈ entries, IsAccepted entry) :
    parse env source (.table entries) =
      .error (.configuration (.rejected source ((arranged entries).flatMap entryFaults))) := by
  have hread := readEntries_of_refused hstandard hdistinct hrefused
  -- a value that cannot be written would fail the report itself
  have hshown : ((arranged entries).flatMap entryFaults).any
      (fun fault => fault.shown.hasOversized) = false := by
    rw [List.any_eq_false]
    intro fault hfault
    obtain ⟨entry, hentry, hmem⟩ := List.mem_flatMap.1 hfault
    rw [(arranged_perm hdistinct).mem_iff] at hentry
    rw [hasOversized_of_mem_entryFaults (hwritten entry hentry) hmem]
    exact Bool.false_ne_true
  simp only [parse, read, hread, hshown]
  rfl

theorem readEntries_of_perm {entries' : Entries} (hstandard : readEntries env [] = .ok standard)
    (hdistinct : (entries.map Prod.fst).Nodup) (hperm : entries'.Perm entries) :
    readEntries env entries' = .ok s ↔ readEntries env entries = .ok s := by
  have hcontent : ∀ f, contentOf env entries' f = contentOf env entries f := by
    intro f
    simp only [contentOf, given, Entries.get?_of_perm hdistinct hperm]
  have hnil : unknownFaults entries' = [] ↔ unknownFaults entries = [] := by
    simp only [unknownFaults_eq_nil_iff, hperm.mem_iff]
  rw [readEntries_eq_gather hstandard, readEntries_eq_gather hstandard, mapError_eq_ok,
    mapError_eq_ok, gather_eq_ok, gather_eq_ok, hnil]
  simp only [hcontent]

end Document

/-! ## Reports -/

/-- The descriptions of the faults that a failure reports. -/
def descriptions : Failure → List String
  | .configuration (.rejected _ faults) => faults.map Fault.describe
  | _ => []

/-- What is reported of an entry when it is read alone. -/
def reported (env : Environment) (source : String) (entry : String × Value) : List String :=
  match parse env source (.table [entry]) with
  | .ok _ => []
  | .error failure => descriptions failure

/-- The message of a document that is rejected with some descriptions of faults. -/
def rejectionMessage (source : String) (descriptions : List String) : String :=
  "Invalid provider config in " ++ source ++ ": " ++ "; ".intercalate descriptions

/-- What holds of the reading of a document whose fields are read independently. -/
structure Fieldwise (env : Environment) (source : String) (standard : Settings)
    (entries : Entries) : Prop where
  /-- A document gives settings exactly when each of its entries does alone. -/
  accepted : (∃ s, parse env source (.table entries) = .ok s) ↔
    ∀ entry ∈ entries, ∃ t, parse env source (.table [entry]) = .ok t
  /-- A field that the document has holds what its entry gives alone. -/
  given : ∀ s, parse env source (.table entries) = .ok s → ∀ entry ∈ entries,
    ∃ f t, f.name = entry.1 ∧ parse env source (.table [entry]) = .ok t ∧ s.get f = t.get f
  /-- A field that the document lacks holds what it holds without a document. -/
  lacking : ∀ s, parse env source (.table entries) = .ok s →
    ∀ f : Field, f.name ∉ entries.map Prod.fst → s.get f = standard.get f
  /-- Every entry has one place in the order of a report. -/
  reportedOnce : (arranged entries).Perm entries
  /-- An entry that is rejected alone is reported by some descriptions. -/
  alone : ∀ entry ∈ entries, ∀ failure, parse env source (.table [entry]) = .error failure →
    reported env source entry ≠ [] ∧
      failure.message = rejectionMessage source (reported env source entry)
  /-- A document that is rejected is reported by the descriptions of its entries, as arranged. -/
  rejected : ∀ failure, parse env source (.table entries) = .error failure →
    failure.kind = .configuration ∧
      failure.message = rejectionMessage source ((arranged entries).flatMap (reported env source))
  /-- In another order the document gives the same settings, or the same descriptions but for the
  order of those of the keys that no field has. -/
  permuted : ∀ entries' : Entries, entries'.Perm entries →
    (∀ s, parse env source (.table entries') = .ok s ↔ parse env source (.table entries) = .ok s) ∧
    ∀ failure, parse env source (.table entries') = .error failure →
      ∃ others, others.Perm (unknown entries) ∧ failure.kind = .configuration ∧
        failure.message =
          rejectionMessage source ((known entries ++ others).flatMap (reported env source))

section Reports

variable {env : Environment} {standard : Settings} {entries : Entries} {entry : String × Value}
  {source : String}

theorem nodup_singleton_keys (entry : String × Value) : ([entry].map Prod.fst).Nodup :=
  List.nodup_singleton _

theorem arranged_singleton (entry : String × Value) : arranged [entry] = [entry] :=
  List.perm_singleton.1 (arranged_perm (nodup_singleton_keys entry))

theorem exists_parse_iff (hstandard : readEntries env [] = .ok standard)
    (hdistinct : (entries.map Prod.fst).Nodup) :
    (∃ s, parse env source (.table entries) = .ok s) ↔ ∀ entry ∈ entries, IsAccepted entry := by
  simp only [parse_eq_ok, exists_readEntries_iff hstandard hdistinct]

theorem exists_parse_singleton_iff (hstandard : readEntries env [] = .ok standard) :
    (∃ s, parse env source (.table [entry]) = .ok s) ↔ IsAccepted entry := by
  rw [exists_parse_iff hstandard (nodup_singleton_keys entry)]
  simp only [List.forall_mem_singleton]

theorem parse_singleton_of_refused (hstandard : readEntries env [] = .ok standard)
    (hwritten : entry.2.hasOversized = false) (hrefused : ¬ IsAccepted entry) :
    parse env source (.table [entry]) =
      .error (.configuration (.rejected source (entryFaults entry))) := by
  rw [parse_of_refused hstandard (nodup_singleton_keys entry) (by simpa using hwritten)
    (by simpa using hrefused), arranged_singleton, List.flatMap_singleton]

/-- What is reported of an entry alone are the descriptions of its faults. -/
theorem reported_eq (hstandard : readEntries env [] = .ok standard)
    (hwritten : entry.2.hasOversized = false) :
    reported env source entry = (entryFaults entry).map Fault.describe := by
  by_cases haccepted : IsAccepted entry
  · obtain ⟨t, ht⟩ : ∃ t, parse env source (.table [entry]) = .ok t :=
      (exists_parse_singleton_iff hstandard).2 haccepted
    simp only [reported, ht, entryFaults_of_isAccepted haccepted, List.map_nil]
  · simp only [reported, parse_singleton_of_refused hstandard hwritten haccepted, descriptions]

theorem refused_of_parse {failure : Failure} (hstandard : readEntries env [] = .ok standard)
    (hdistinct : (entries.map Prod.fst).Nodup)
    (h : parse env source (.table entries) = .error failure) :
    ¬ ∀ entry ∈ entries, IsAccepted entry := by
  intro haccepted
  obtain ⟨s, hs⟩ : ∃ s, parse env source (.table entries) = .ok s :=
    (exists_parse_iff hstandard hdistinct).2 haccepted
  rw [h] at hs
  cases hs

/-- A document that is rejected is rejected with the descriptions of its entries. -/
theorem rejected_of_parse {failure : Failure} (hstandard : readEntries env [] = .ok standard)
    (hdistinct : (entries.map Prod.fst).Nodup)
    (hwritten : ∀ entry ∈ entries, entry.2.hasOversized = false)
    (h : parse env source (.table entries) = .error failure) :
    failure.kind = .configuration ∧
      failure.message =
        rejectionMessage source ((arranged entries).flatMap (reported env source)) := by
  have hrefused := refused_of_parse hstandard hdistinct h
  have hdescriptions : (arranged entries).flatMap (reported env source) =
      ((arranged entries).flatMap entryFaults).map Fault.describe := by
    rw [List.map_flatMap]
    refine List.flatMap_congr fun entry hentry => reported_eq hstandard (hwritten entry ?_)
    exact (arranged_perm hdistinct).mem_iff.1 hentry
  rw [parse_of_refused hstandard hdistinct hwritten hrefused] at h
  cases h
  rw [hdescriptions]
  exact ⟨rfl, rfl⟩

theorem rejected_of_parse_singleton {failure : Failure}
    (hstandard : readEntries env [] = .ok standard) (hwritten : entry.2.hasOversized = false)
    (h : parse env source (.table [entry]) = .error failure) :
    reported env source entry ≠ [] ∧
      failure.message = rejectionMessage source (reported env source entry) := by
  have hmessage := (rejected_of_parse hstandard (nodup_singleton_keys entry)
    (by simpa using hwritten) h).2
  rw [arranged_singleton, List.flatMap_singleton] at hmessage
  have hrefused : ¬ IsAccepted entry := by
    simpa using refused_of_parse hstandard (nodup_singleton_keys entry) h
  refine ⟨fun hnil => ?_, hmessage⟩
  rw [reported_eq hstandard hwritten, List.map_eq_nil_iff] at hnil
  exact (areReport_entryFaults hwritten hrefused).1 hnil

/-- Settings hold for a field what the check of its entry gives, whatever else was read. -/
theorem check_of_parse {s : Settings} {f : Field} {v : Value}
    (hdistinct : (entries.map Prod.fst).Nodup)
    (h : parse env source (.table entries) = .ok s) (hmem : (f.name, v) ∈ entries) :
    check f v = .ok (s.get f) := by
  rw [← contentOf_of_get? ((Entries.get?_eq_some_iff hdistinct).2 hmem)]
  exact contentOf_of_readEntries (parse_eq_ok.1 h) f

theorem get_of_parse_singleton {s : Settings} (hstandard : readEntries env [] = .ok standard)
    (hdistinct : (entries.map Prod.fst).Nodup)
    (h : parse env source (.table entries) = .ok s) (hmem : entry ∈ entries) :
    ∃ f t, f.name = entry.1 ∧ parse env source (.table [entry]) = .ok t ∧ s.get f = t.get f := by
  have haccepted := (exists_parse_iff hstandard hdistinct).1 ⟨s, h⟩ entry hmem
  obtain ⟨t, ht⟩ : ∃ t, parse env source (.table [entry]) = .ok t :=
    (exists_parse_singleton_iff hstandard).2 haccepted
  obtain ⟨key, v⟩ := entry
  obtain ⟨f, content, rfl, -⟩ := haccepted
  have hcheck := check_of_parse hdistinct h hmem
  have hcheck' := check_of_parse (nodup_singleton_keys _) ht (List.mem_singleton_self _)
  exact ⟨f, t, rfl, ht, Except.ok.inj (hcheck.symm.trans hcheck')⟩

theorem get_of_lacking {s : Settings} {f : Field} (hstandard : readEntries env [] = .ok standard)
    (h : parse env source (.table entries) = .ok s) (hlacking : f.name ∉ entries.map Prod.fst) :
    s.get f = standard.get f := by
  have hcontent := contentOf_of_readEntries (parse_eq_ok.1 h) f
  rw [contentOf_of_get?_none (Entries.get?_eq_none_iff.2 hlacking),
    contentOf_of_readEntries hstandard f] at hcontent
  exact (Except.ok.inj hcontent).symm

/-- The fields of a document are read independently: whether the document is rejected, what it
gives to a field and what is said of its faults are put together from what is read of its entries
one by one. -/
theorem parse_fieldwise (hstandard : parse env source (.table []) = .ok standard)
    (hdistinct : (entries.map Prod.fst).Nodup)
    (hwritten : ∀ entry ∈ entries, entry.2.hasOversized = false) :
    Fieldwise env source standard entries where
  accepted := by
    rw [parse_eq_ok] at hstandard
    rw [exists_parse_iff hstandard hdistinct]
    simp only [exists_parse_singleton_iff hstandard]
  given _ h _ hmem := get_of_parse_singleton (parse_eq_ok.1 hstandard) hdistinct h hmem
  lacking _ h _ hlacking := get_of_lacking (parse_eq_ok.1 hstandard) h hlacking
  reportedOnce := arranged_perm hdistinct
  alone entry hmem _ h :=
    rejected_of_parse_singleton (parse_eq_ok.1 hstandard) (hwritten entry hmem) h
  rejected _ h := rejected_of_parse (parse_eq_ok.1 hstandard) hdistinct hwritten h
  permuted entries' hperm := by
    rw [parse_eq_ok] at hstandard
    have hdistinct' : (entries'.map Prod.fst).Nodup := (hperm.map Prod.fst).nodup_iff.2 hdistinct
    have hwritten' : ∀ entry ∈ entries', entry.2.hasOversized = false := fun entry hentry =>
      hwritten entry (hperm.mem_iff.1 hentry)
    refine ⟨fun s => ?_, fun failure h => ⟨unknown entries', unknown_perm hperm, ?_⟩⟩
    · rw [parse_eq_ok, parse_eq_ok, readEntries_of_perm hstandard hdistinct hperm]
    · rw [← known_of_perm hdistinct hperm]
      exact rejected_of_parse hstandard hdistinct' hwritten' h

end Reports

/-- A document with faults of two fields and of two keys that no field has. -/
def faultyDocument : Entries :=
  [("colour", .text "red"),
    ("clientcert", .list [.table [("cert", .text ""), ("key", .bool true), ("path", .null)]]),
    ("host", .text "db.internal"), ("port", .int 70000), ("shape", .null)]

/-- The document is rejected for all of its faults, the fields in the order of the schema. -/
theorem parse_fieldwise_faulty :
    (∃ standard, parse .empty "<mapping>" (.table []) = .ok standard) ∧
    (faultyDocument.map Prod.fst).Nodup ∧
    (∀ entry ∈ faultyDocument, entry.2.hasOversized = false) ∧
    ∃ failure, parse .empty "<mapping>" (.table faultyDocument) = .error failure ∧
      failure.kind = .configuration ∧
      failure.message = "Invalid provider config in <mapping>: " ++
        "port: Input should be less than or equal to 65535 (got 70000); " ++
        "clientcert.cert: String should have at least 1 character (got ''); " ++
        "clientcert.key: Input should be a valid string (got True); " ++
        "clientcert.path: Extra inputs are not permitted (got None); " ++
        "colour: Extra inputs are not permitted (got 'red'); " ++
        "shape: Extra inputs are not permitted (got None)" := by
  obtain ⟨standard, hstandard⟩ :
      ∃ standard, parse .empty "<mapping>" (.table []) = .ok standard := ⟨_, rfl⟩
  have hdistinct : (faultyDocument.map Prod.fst).Nodup := by decide
  have hwritten : ∀ entry ∈ faultyDocument, entry.2.hasOversized = false := by
    decide +kernel
  have hread := parse_fieldwise hstandard hdistinct hwritten
  refine ⟨⟨standard, hstandard⟩, hdistinct, hwritten, ?_⟩
  cases h : parse .empty "<mapping>" (.table faultyDocument) with
  | ok s =>
    obtain ⟨f, t, hname, -, -⟩ := hread.given s h ("colour", .text "red") (.head _)
    refine absurd hname ?_
    cases f <;> decide
  | error failure =>
    obtain ⟨hkind, hmessage⟩ := hread.rejected failure h
    refine ⟨failure, rfl, hkind, hmessage.trans ?_⟩
    decide +kernel

end PostgresAccess.Settings
