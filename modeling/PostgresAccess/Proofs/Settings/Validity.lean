import PostgresAccess.Proofs.Kind
import PostgresAccess.Proofs.Result
import PostgresAccess.Settings.Reading

/-!
# What reading settings guarantees

`Field.Admits` says what holds of every content that the rules of a field accept, whatever value of
a document the content was read from.  The rules read numbers, truth values and certificates
leniently, and the environment or a standard value stands in for a field that the document lacks;
but a value from anywhere goes through the same check, and what a check lets pass is in the form
that the field is meant for (`Field.admits_of_check`).

Settings are valid when every field holds such a content.  The main results: settings that were read
are made of the contents of their fields, each checked on its own (`Settings.contentOf_of_parse`),
and so they are valid (`Settings.areValid_of_parse`).
-/

namespace PostgresAccess

/-- The paths of a certificate, neither of them empty. -/
def Certificate.HasPaths (c : Certificate) : Prop := c.cert.IsNonEmptyText ∧ c.key.IsNonEmptyText

/-- What holds of every content that the rules of a field accept. -/
def Field.Admits : Field → Value → Prop
  | .scheme, v => ∃ scheme : Scheme, v = .text scheme.name
  | .host, v | .database, v | .username, v => v.IsNonEmptyText
  | .port, v => ∃ n : Int, v = .int n ∧ 1 ≤ n ∧ n ≤ 65535
  | .superuser, v => ∃ b, v = .bool b
  | .connectTimeout, v | .maxConnections, v => v.IsIntegerFrom (-1)
  | .expectedVersion, v => ∃ t version, v = .text t ∧ Version.parse t = .ok version
  | .clientCertificate, v => v = .null ∨ ∃ c : Certificate, c.HasPaths ∧ v = c.toBlock
  | .password, v | .passwordCommand, v | .databaseUsername, v | .sslmode, v | .legacySslmode, v
  | .rootCertificate, v | .jumphost, v => v.IsOptionalText

/-- Every field holds a content that its rules accept. -/
def Settings.AreValid (s : Settings) : Prop := ∀ f : Field, f.Admits (f.toValue (s.get f))

namespace Settings

open Result

/-! ## Single readings -/

theorem textOf_eq_ok {v : Value} {t : String} : textOf v = .ok t ↔ v = .text t := by
  cases v <;> simp [textOf]

theorem nonEmptyTextOf_eq_ok {v : Value} {t : String} :
    nonEmptyTextOf v = .ok t ↔ v = .text t ∧ t ≠ "" := by
  rw [nonEmptyTextOf, bind_eq_ok]
  constructor
  · rintro ⟨u, hu, h⟩
    split at h
    · cases h
    · cases h
      exact ⟨textOf_eq_ok.1 hu, by assumption⟩
  · rintro ⟨rfl, ht⟩
    exact ⟨t, rfl, if_neg ht⟩

theorem optionalTextOf_eq_ok {v c : Value} :
    optionalTextOf v = .ok c ↔ v = c ∧ c.IsOptionalText := by
  cases v <;> simp [optionalTextOf, Except.map, textOf, Value.IsOptionalText] <;> grind

theorem within_eq_ok {low n m : Int} {high : Option Int} :
    within low high n = .ok m ↔ n = m ∧ low ≤ n ∧ ∀ bound ∈ high, n ≤ bound := by
  cases high with
  | none => grind [within]
  | some bound =>
    simp only [Option.mem_some_iff, forall_eq']
    grind [within]

theorem versionTextOf_eq_ok {v : Value} {t : String} :
    versionTextOf v = .ok t ↔ v = .text t ∧ ∃ version, Version.parse t = .ok version := by
  rw [versionTextOf, bind_eq_ok]
  constructor
  · rintro ⟨u, hu, h⟩
    split at h
    · rename_i version hversion
      cases h
      exact ⟨textOf_eq_ok.1 hu, version, hversion⟩
    · cases h
  · rintro ⟨rfl, version, hversion⟩
    refine ⟨t, rfl, ?_⟩
    simp only [hversion]
    rfl

/-! ## Certificates -/

theorem certificatePath_eq_ok {entries : Entries} {key path : String}
    (h : certificatePath entries key = .ok path) : path ≠ "" := by
  unfold certificatePath at h
  split at h
  · cases h
  · rw [mapError_eq_ok, nonEmptyTextOf_eq_ok] at h
    exact h.2

theorem certificateOfTable_hasPaths {entries : Entries} {c : Certificate}
    (h : certificateOfTable entries = .ok c) : c.HasPaths := by
  unfold certificateOfTable at h
  split at h
  · rename_i cert key hcert hkey _
    cases h
    exact ⟨⟨cert, rfl, certificatePath_eq_ok hcert⟩, ⟨key, rfl, certificatePath_eq_ok hkey⟩⟩
  · cases h

/-- Whatever form a block was given in, it is kept as a table of two paths. -/
theorem certificateBlockOf_admits {v block : Value} (h : certificateBlockOf v = .ok block) :
    Field.clientCertificate.Admits block := by
  unfold certificateBlockOf at h
  simp only at h
  split at h
  · cases h
  · cases h
    exact .inl rfl
  · obtain ⟨c, hc, rfl⟩ := map_eq_ok.1 h
    exact .inr ⟨c, certificateOfTable_hasPaths hc, rfl⟩
  · cases h

/-! ## All fields -/

theorem atField_eq_ok {α : Type} {f : Field} {v : Value} {result : Except Rule α} {a : α} :
    atField f v result = .ok a ↔ result = .ok a := mapError_eq_ok

end Settings

open Settings Result in
/-- A content that passes the check of a field is one that the field admits. -/
theorem Field.admits_of_check {f : Field} {v : Value} {content : f.Content}
    (h : check f v = .ok content) : f.Admits (f.toValue content) := by
  cases f
  case scheme => exact ⟨content, rfl⟩
  case clientCertificate => exact certificateBlockOf_admits h
  case host | database | username =>
    obtain ⟨t, ht, rfl⟩ := map_eq_ok.1 (atField_eq_ok.1 h)
    exact ⟨t, rfl, (nonEmptyTextOf_eq_ok.1 ht).2⟩
  case port =>
    obtain ⟨n, hn, rfl⟩ := map_eq_ok.1 (atField_eq_ok.1 h)
    obtain ⟨m, -, hm⟩ := bind_eq_ok.1 hn
    obtain ⟨rfl, low, high⟩ := within_eq_ok.1 hm
    exact ⟨m, rfl, low, high _ rfl⟩
  case superuser =>
    obtain ⟨b, -, rfl⟩ := map_eq_ok.1 (atField_eq_ok.1 h)
    exact ⟨b, rfl⟩
  case connectTimeout | maxConnections =>
    obtain ⟨n, hn, rfl⟩ := map_eq_ok.1 (atField_eq_ok.1 h)
    obtain ⟨m, -, hm⟩ := bind_eq_ok.1 hn
    obtain ⟨rfl, low, -⟩ := within_eq_ok.1 hm
    exact ⟨m, rfl, low⟩
  case expectedVersion =>
    obtain ⟨t, ht, rfl⟩ := map_eq_ok.1 (atField_eq_ok.1 h)
    obtain ⟨version, hversion⟩ := (versionTextOf_eq_ok.1 ht).2
    exact ⟨t, version, rfl, hversion⟩
  all_goals exact (optionalTextOf_eq_ok.1 (atField_eq_ok.1 h)).2

namespace Settings

open Result

/-! ## Reading a document -/

theorem resultOf_eq {α : Type} {reading : Except (List Fault) α} (h : succeeds reading = true) :
    reading = .ok (resultOf reading h) := by
  cases reading with
  | ok a => rfl
  | error faults => cases h

/-- Readings that give settings all succeed, and give the contents of the settings. -/
theorem reading_of_gather {reading : (f : Field) → Except (List Fault) f.Content}
    {more : List Fault} {s : Settings} (h : gather reading more = .ok s) (f : Field) :
    reading f = .ok (s.get f) := by
  unfold gather at h
  split at h
  · rename_i all
    split at h
    · cases h
      rw [get_ofFields]
      exact resultOf_eq (all f f.mem_all)
    · cases h
  · cases h

theorem contentOf_of_readEntries {env : Environment} {entries : Entries} {s : Settings}
    (h : readEntries env entries = .ok s) (f : Field) :
    contentOf env entries f = .ok (s.get f) := by
  unfold readEntries at h
  split at h
  · cases h
  · exact reading_of_gather (mapError_eq_ok.1 h) f

theorem readEntries_of_parse {env : Environment} {source : String} {data : Value} {s : Settings}
    (h : parse env source data = .ok s) :
    ∃ entries, data = .table entries ∧ readEntries env entries = .ok s := by
  unfold parse at h
  split at h
  · rename_i hread
    cases h
    cases data with
    | table entries => exact ⟨entries, rfl, hread⟩
    | _ => cases hread
  · cases h
  · split at h <;> cases h

theorem contentOf_of_parse {env : Environment} {source : String} {data : Value} {s : Settings}
    (h : parse env source data = .ok s) :
    ∃ entries, data = .table entries ∧ ∀ f, contentOf env entries f = .ok (s.get f) := by
  obtain ⟨entries, rfl, hread⟩ := readEntries_of_parse h
  exact ⟨entries, rfl, contentOf_of_readEntries hread⟩

theorem check_of_contentOf {env : Environment} {entries : Entries} {f : Field}
    {content : f.Content} (h : contentOf env entries f = .ok content) :
    ∃ v, given env entries f = .ok v ∧ check f v = .ok content := by
  unfold contentOf at h
  split at h
  · rename_i v hv
    exact ⟨v, hv, h⟩
  · cases h

/-- Settings that were read are valid. -/
theorem areValid_of_parse {env : Environment} {source : String} {data : Value} {s : Settings}
    (h : parse env source data = .ok s) : s.AreValid := by
  obtain ⟨entries, -, hcontent⟩ := contentOf_of_parse h
  intro f
  obtain ⟨v, -, hcheck⟩ := check_of_contentOf (hcontent f)
  exact Field.admits_of_check hcheck

/-- Valid settings stay valid with any other content of a field that the field admits. -/
theorem AreValid.set {s : Settings} (h : s.AreValid) {f : Field} {content : f.Content}
    (hcontent : f.Admits (f.toValue content)) : (s.set f content).AreValid := by
  intro g
  by_cases hg : f = g
  · subst hg
    rw [get_set_self]
    exact hcontent
  · rw [get_set_of_ne s content hg]
    exact h g

theorem areDeclared_of_areValid {s : Settings} (h : s.AreValid) : s.areDeclared = true := by
  refine List.all_eq_true.2 fun f _ => ?_
  have hf := h f
  unfold Field.isDeclared
  cases f
  case scheme => rfl
  case clientCertificate =>
    -- a rule asks for more than the kind of a content, and what it asks for is dropped here
    obtain hnone | ⟨⟨cert, key⟩, ⟨⟨c, rfl, -⟩, ⟨k, rfl, -⟩⟩, hblock⟩ := hf
    · rw [hnone]
      rfl
    · rw [hblock]
      rfl
  case superuser =>
    obtain ⟨b, hb⟩ := hf
    rw [hb]
    rfl
  case host | database | username | port | connectTimeout | maxConnections =>
    obtain ⟨x, hx, -⟩ := hf
    rw [hx]
    rfl
  case expectedVersion =>
    obtain ⟨t, -, ht, -⟩ := hf
    rw [ht]
    rfl
  all_goals
    obtain hnone | ⟨t, ht⟩ := hf
    · rw [hnone]
      rfl
    · rw [ht]
      rfl

end Settings

end PostgresAccess
