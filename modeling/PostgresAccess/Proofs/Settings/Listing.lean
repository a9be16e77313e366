import PostgresAccess.Proofs.Settings.Precedence

/-!
# Settings that are read again

Settings can be listed in a table: every field under its name, with the content that it has.  A
table that lists settings which were read is read as the same settings, in every environment
(`Settings.parse_listing`).  So whatever the lenient rules make of a value, they keep what they have
made of it; and since a listing has every field, a missing one too, neither a variable nor a
standard value takes the place of a content.

A listing may have its entries in any order, and the certificate in a list of its own.
-/

namespace PostgresAccess

/-- The forms in which a content may stand in a table: as it is, and a certificate, or a missing
one, also in a list of its own. -/
def Field.IsWritten (f : Field) (content v : Value) : Prop :=
  v = content ∨ (f = .clientCertificate ∧ v = .list [content])

/-- A table lists settings if it has every field with its content, and no other keys. -/
structure Settings.IsListedBy (s : Settings) (entries : Entries) : Prop where
  listed : ∀ f : Field, ∃ v, entries.get? f.name = some v ∧ f.IsWritten (f.toValue (s.get f)) v
  known : ∀ entry ∈ entries, ∃ f : Field, f.name = entry.1

namespace Settings

/-- The table of all fields, with the certificate in a list of its own. -/
def toBlockEntries (s : Settings) : Entries :=
  Field.all.map fun f =>
    (f.name, if f = .clientCertificate then .list [s.clientCertificate] else f.toValue (s.get f))

variable {s : Settings}

/-! ## Listings -/

theorem get?_map_of_mem {fields : List Field} (value : Field → Value) {f : Field}
    (h : f ∈ fields) :
    Entries.get? (fields.map fun g => (g.name, value g)) f.name = some (value f) := by
  induction fields with
  | nil => cases h
  | cons g rest ih =>
    rw [List.map_cons, Entries.get?_cons]
    by_cases hg : g = f
    · rw [hg, if_pos rfl]
    · rw [if_neg (mt (@Field.name_injective g f) hg)]
      exact ih ((List.mem_cons.1 h).resolve_left (Ne.symm hg))

/-- A table of all fields lists the settings whose contents it is written with. -/
theorem isListedBy_map {value : Field → Value}
    (h : ∀ f : Field, f.IsWritten (f.toValue (s.get f)) (value f)) :
    s.IsListedBy (Field.all.map fun f => (f.name, value f)) where
  listed f := ⟨value f, get?_map_of_mem value f.mem_all, h f⟩
  known entry hentry := by
    obtain ⟨f, -, rfl⟩ := List.mem_map.1 hentry
    exact ⟨f, rfl⟩

theorem isListedBy_toEntries (s : Settings) : s.IsListedBy s.toEntries :=
  isListedBy_map fun _ => .inl rfl

theorem isListedBy_toBlockEntries (s : Settings) : s.IsListedBy s.toBlockEntries := by
  refine isListedBy_map fun f => ?_
  split
  · rename_i hf
    subst hf
    exact .inr ⟨rfl, rfl⟩
  · exact .inl rfl

/-! ## Reading a listing -/

theorem certificateBlockOf_singleton {v : Value} (h : Field.clientCertificate.Admits v) :
    certificateBlockOf (.list [v]) = certificateBlockOf v := by
  obtain rfl | ⟨c, -, rfl⟩ := h <;> rfl

/-- A content that a rule admits passes its check, in whichever form it is written. -/
theorem check_of_isWritten {f : Field} {content : f.Content} {v : Value}
    (hadmits : f.Admits (f.toValue content)) (hv : f.IsWritten (f.toValue content) v) :
    check f v = .ok content := by
  have hplain : check f (f.toValue content) = .ok content := by
    obtain ⟨kept, hcheck, hvalue⟩ := check_of_admits hadmits
    rw [hcheck, toValue_injective f hvalue]
  obtain rfl | ⟨rfl, rfl⟩ := hv
  · exact hplain
  · exact (certificateBlockOf_singleton hadmits).trans hplain

/-- A listing of valid settings is read as these settings, whatever the variables are. -/
theorem parse_of_isListedBy {entries : Entries} (hvalid : s.AreValid)
    (hlisted : s.IsListedBy entries) (env : Environment) (source : String) :
    parse env source (.table entries) = .ok s := by
  rw [parse_eq_ok, readEntries_eq_ok_iff]
  refine ⟨fun f => ?_, hlisted.known⟩
  obtain ⟨v, hfound, hv⟩ := hlisted.listed f
  rw [contentOf_of_get? hfound]
  exact check_of_isWritten (hvalid f) hv

/-- Settings that were read are read again from every table that lists them, in whichever
environment: nothing in them is changed by the rules, and nothing is put in by a variable. -/
theorem parse_listing {env : Environment} {source : String} {data : Value}
    (hparse : parse env source data = .ok s) :
    s.IsListedBy s.toEntries ∧ s.IsListedBy s.toBlockEntries ∧
    ∀ (entries : Entries) (env' : Environment) (source' : String), s.IsListedBy entries →
      parse env' source' (.table entries) = .ok s :=
  ⟨isListedBy_toEntries s, isListedBy_toBlockEntries s, fun _ env' source' hlisted =>
    parse_of_isListedBy (areValid_of_parse hparse) hlisted env' source'⟩

/-- A document that gives its contents by values of other kinds. -/
def lenientDocument : Value :=
  .table [("port", .text " +08_080 "), ("superuser", .text "oFF"), ("sslmode", .text ""),
    ("clientcert", .table [("key", .text "a.key"), ("cert", .text "a.pem")]),
    ("max_connections", .bool true)]

/-- An environment that gives a password, and nothing else. -/
def passwordEnvironment : Environment := .ofPairs [("PGPASSWORD", "hunter2")]

/-- An environment whose numbers and truth values do not convert. -/
def malformedEnvironment : Environment :=
  .ofPairs [("PGPORT", "x"), ("PGPASSWORD", "other"), ("PGSUPERUSER", "maybe"),
    ("PGCONNECT_TIMEOUT", "-")]

/-- The settings of the document are kept by their listings where the variables are malformed, and
the password stays that of the first environment. -/
theorem parse_listing_malformed :
    ∃ s, parse passwordEnvironment "<mapping>" lenientDocument = .ok s ∧
      s.port = .int 8080 ∧ s.password = .text "hunter2" ∧
      (∃ failure, parse malformedEnvironment "<mapping>" (.table []) = .error failure) ∧
      parse malformedEnvironment "again" (.table s.toEntries) = .ok s ∧
      parse malformedEnvironment "again" (.table s.toBlockEntries) = .ok s := by
  obtain ⟨s, hparse, hport, hpassword⟩ :
      ∃ s, parse passwordEnvironment "<mapping>" lenientDocument = .ok s ∧
        s.port = .int 8080 ∧ s.password = .text "hunter2" := ⟨_, rfl, rfl, rfl⟩
  obtain ⟨hlisted, hblock, hagain⟩ := parse_listing hparse
  exact ⟨s, hparse, hport, hpassword, ⟨_, rfl⟩, hagain _ _ _ hlisted, hagain _ _ _ hblock⟩

end Settings

end PostgresAccess
