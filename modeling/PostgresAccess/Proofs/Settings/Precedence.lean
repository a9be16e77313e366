import PostgresAccess.Proofs.Settings.Independence

/-!
# Entries come before variables, and variables before standard values

A field that a document has is read from its entry alone, whatever stands there; its variable is not
looked at.  A field that the document lacks is read from its variable if that is set to more than
nothing, and has its standard value otherwise.  `Supplies` says which content a field is given in
this way, without the steps of the reading: where it comes from a variable, it is the text itself or
the number or truth value that the text stands for (`Converts`).

A document gives settings exactly if every field is given a content and no key is unknown
(`parse_eq_ok_iff_supplies`).  The main result is `parse_precedence`.  The variables of the fields
and their standard values are told by name and one by one (`variableNames`, `standardEntries`).
-/

namespace PostgresAccess.Settings

open Numeral (readInteger)
open Result

/-! ## Variables and standard values -/

/-- The keys of the fields that have a variable, with its name. -/
def variableNames : List (String × String) :=
  [("host", "PGHOST"), ("port", "PGPORT"), ("database", "PGDATABASE"), ("username", "PGUSER"),
    ("password", "PGPASSWORD"), ("superuser", "PGSUPERUSER"), ("sslmode", "PGSSLMODE"),
    ("connect_timeout", "PGCONNECT_TIMEOUT")]

/-- A document that gives every field its standard value. -/
def standardEntries : Entries :=
  [("scheme", .text "postgres"), ("host", .text "localhost"), ("port", .int 5432),
    ("database", .text "postgres"), ("username", .text "postgres"), ("password", .null),
    ("password_command", .null), ("database_username", .null), ("superuser", .bool true),
    ("sslmode", .null), ("ssl_mode", .null), ("clientcert", .null), ("sslrootcert", .null),
    ("connect_timeout", .int 180), ("max_connections", .int 20),
    ("expected_version", .text "9.0.0"), ("jumphost", .null)]

theorem supplier?_eq_some_iff {f : Field} {x : Variable} :
    supplier? f = some x ↔ (f.name, x.name) ∈ variableNames := by
  cases f <;> cases x <;> decide

theorem map_standard : (Field.all.map fun f => (f.name, standard f)) = standardEntries := rfl

/-! ## Texts of variables -/

/-- A text without the blanks at its ends, and with its ASCII letters in lower case. -/
def wordOf (text : String) : String := lowercase (Text.trim text.toList)

/-- The value that the text of a variable stands for in a field. -/
inductive Converts : Field → String → Value → Prop
  | integer {f : Field} {text : String} {n : Int} (hf : f = .port ∨ f = .connectTimeout)
    (hn : readInteger text = .ok n) : Converts f text (.int n)
  | yes {text : String} (hword : wordOf text ∈ ["1", "t", "true", "yes", "on"]) :
    Converts .superuser text (.bool true)
  | no {text : String} (hword : wordOf text ∈ ["0", "f", "false", "no", "off"]) :
    Converts .superuser text (.bool false)
  | text {f : Field} {text : String}
    (hf : f ≠ .port ∧ f ≠ .connectTimeout ∧ f ≠ .superuser) : Converts f text (.text text)

section Converts

variable {f : Field} {text : String} {v : Value}

theorem boolOfVariable_of_yes (h : wordOf text ∈ ["1", "t", "true", "yes", "on"]) :
    boolOfVariable text = .ok true := if_pos (List.contains_iff_mem.2 h)

theorem boolOfVariable_of_no (h : wordOf text ∈ ["0", "f", "false", "no", "off"]) :
    boolOfVariable text = .ok false := by
  -- no word stands for both truth values
  have hyes : wordOf text ∉ ["1", "t", "true", "yes", "on"] := by
    revert h
    generalize wordOf text = word
    simp only [List.mem_cons, List.not_mem_nil, or_false]
    rintro (rfl | rfl | rfl | rfl | rfl) <;> decide
  exact (if_neg (mt List.contains_iff_mem.1 hyes)).trans (if_pos (List.contains_iff_mem.2 h))

theorem word_of_boolOfVariable {b : Bool} (h : boolOfVariable text = .ok b) :
    b = true ∧ wordOf text ∈ ["1", "t", "true", "yes", "on"] ∨
      b = false ∧ wordOf text ∈ ["0", "f", "false", "no", "off"] := by
  simp only [boolOfVariable] at h
  split at h
  · rename_i hyes
    cases h
    exact .inl ⟨rfl, List.contains_iff_mem.1 hyes⟩
  · split at h
    · rename_i hno
      cases h
      exact .inr ⟨rfl, List.contains_iff_mem.1 hno⟩
    · cases h

theorem convert_eq_ok : convert f text = .ok v ↔ Converts f text v := by
  constructor
  · intro h
    cases f
    case port | connectTimeout =>
      obtain ⟨n, hn, rfl⟩ := map_eq_ok.1 h
      exact .integer (by simp) (mapError_eq_ok.1 hn)
    case superuser =>
      obtain ⟨b, hb, rfl⟩ := map_eq_ok.1 h
      obtain ⟨rfl, hword⟩ | ⟨rfl, hword⟩ := word_of_boolOfVariable hb
      · exact .yes hword
      · exact .no hword
    all_goals
      cases h
      exact .text (by simp)
  · rintro (⟨rfl | rfl, hn⟩ | hword | hword | hf)
    · exact map_eq_ok.2 ⟨_, mapError_eq_ok.2 hn, rfl⟩
    · exact map_eq_ok.2 ⟨_, mapError_eq_ok.2 hn, rfl⟩
    · exact map_eq_ok.2 ⟨_, boolOfVariable_of_yes hword, rfl⟩
    · exact map_eq_ok.2 ⟨_, boolOfVariable_of_no hword, rfl⟩
    · cases f <;> first | rfl | simp at hf

end Converts

/-! ## What a rule keeps -/

/-- A content that a rule admits passes its check and is kept. -/
theorem check_of_admits {f : Field} {v : Value} (h : f.Admits v) :
    ∃ content, check f v = .ok content ∧ f.toValue content = v := by
  cases f
  case scheme =>
    obtain ⟨scheme, rfl⟩ := h
    exact ⟨scheme, by cases scheme <;> rfl, rfl⟩
  case clientCertificate =>
    obtain rfl | ⟨⟨_, _⟩, ⟨⟨cert, rfl, hcert⟩, key, rfl, hkey⟩, rfl⟩ := h
    · exact ⟨.null, rfl, rfl⟩
    · have hpath : ∀ name path entries, path ≠ "" → Entries.get? entries name = some (.text path) →
          certificatePath entries name = .ok path := by
        intro name path entries hpath hfound
        rw [certificatePath, hfound]
        exact mapError_eq_ok.2 (nonEmptyTextOf_eq_ok.2 ⟨rfl, hpath⟩)
      have hread : certificateOfTable [("cert", .text cert), ("key", .text key)] =
          .ok ⟨.text cert, .text key⟩ := by
        rw [certificateOfTable, hpath _ _ _ hcert rfl, hpath _ _ _ hkey rfl]
        rfl
      exact ⟨_, map_eq_ok.2 ⟨_, hread, rfl⟩, rfl⟩
  case host | database | username =>
    obtain ⟨t, rfl, ht⟩ := h
    exact ⟨.text t, atField_eq_ok.2 (map_eq_ok.2 ⟨t, nonEmptyTextOf_eq_ok.2 ⟨rfl, ht⟩, rfl⟩), rfl⟩
  case port =>
    obtain ⟨n, rfl, low, high⟩ := h
    have hn : within 1 (some 65535) n = .ok n := within_eq_ok.2 ⟨rfl, low, by simpa using high⟩
    exact ⟨.int n, atField_eq_ok.2 (map_eq_ok.2 ⟨n, bind_eq_ok.2 ⟨n, rfl, hn⟩, rfl⟩), rfl⟩
  case superuser =>
    obtain ⟨b, rfl⟩ := h
    exact ⟨.bool b, rfl, rfl⟩
  case connectTimeout | maxConnections =>
    obtain ⟨n, rfl, low⟩ := h
    have hn : within (-1) none n = .ok n := within_eq_ok.2 ⟨rfl, low, by simp⟩
    exact ⟨.int n, atField_eq_ok.2 (map_eq_ok.2 ⟨n, bind_eq_ok.2 ⟨n, rfl, hn⟩, rfl⟩), rfl⟩
  case expectedVersion =>
    obtain ⟨t, version, rfl, hversion⟩ := h
    exact ⟨.text t, atField_eq_ok.2 (map_eq_ok.2
      ⟨t, versionTextOf_eq_ok.2 ⟨rfl, version, hversion⟩, rfl⟩), rfl⟩
  all_goals exact ⟨v, atField_eq_ok.2 (optionalTextOf_eq_ok.2 ⟨rfl, h⟩), rfl⟩

/-- The check of a field keeps what the text of its variable stands for. -/
theorem toValue_of_converts {f : Field} {x : Variable} {text : String} {v : Value}
    {content : f.Content} (hx : supplier? f = some x) (hv : Converts f text v)
    (h : check f v = .ok content) : f.toValue content = v := by
  cases f
  case port | connectTimeout =>
    obtain ⟨-, -⟩ | - | - | hf := hv
    · obtain ⟨n, hn, rfl⟩ := map_eq_ok.1 (atField_eq_ok.1 h)
      obtain ⟨m, hm, hwithin⟩ := bind_eq_ok.1 hn
      cases hm
      rw [(within_eq_ok.1 hwithin).1]
      rfl
    · simp at hf
  case superuser =>
    obtain ⟨hf, -⟩ | - | - | hf := hv
    · simp at hf
    · cases h
      rfl
    · cases h
      rfl
    · simp at hf
  case host | database | username =>
    obtain ⟨hf, -⟩ | - | - | hf := hv
    · simp at hf
    · obtain ⟨t, ht, rfl⟩ := map_eq_ok.1 (atField_eq_ok.1 h)
      exact (nonEmptyTextOf_eq_ok.1 ht).1.symm
  case password | sslmode =>
    exact (optionalTextOf_eq_ok.1 (atField_eq_ok.1 h)).1.symm
  all_goals cases hx

theorem check_standard (f : Field) :
    ∃ content, check f (standard f) = .ok content ∧ f.toValue content = standard f := by
  cases f <;> exact ⟨_, rfl, rfl⟩

/-! ## Where the content of a field comes from -/

/-- The content of a field comes from its entry in the document; if there is none, from its
variable; and if that is not set either, it is the standard value. -/
inductive Supplies (env : Environment) (entries : Entries) (f : Field) (content : f.Content) : Prop
  | entry {v : Value} (found : entries.get? f.name = some v) (checked : check f v = .ok content)
  | variable {x : Variable} {text : String} (lacking : entries.get? f.name = none)
    (supplied : supplier? f = some x) (set : env.text? x = some text)
    (converted : Converts f text (f.toValue content)) (admitted : f.Admits (f.toValue content))
  | standard (lacking : entries.get? f.name = none)
    (unset : ∀ x, supplier? f = some x → env.text? x = none)
    (standard : f.toValue content = standard f)

section Supplies

variable {env env' : Environment} {entries : Entries} {f : Field} {content : f.Content}
  {source : String} {s : Settings}

theorem contentOf_of_given {v : Value} (hgiven : given env entries f = .ok v) :
    contentOf env entries f = check f v := by
  rw [contentOf, hgiven]

theorem given_of_get?_none (h : entries.get? f.name = none) :
    given env entries f = fallback env f := by
  rw [given, h]

theorem fallback_of_set {x : Variable} {text : String} (hx : supplier? f = some x)
    (htext : env.text? x = some text) : fallback env f = convert f text := by
  simp only [fallback, hx, htext]

theorem fallback_of_unset (h : ∀ x, supplier? f = some x → env.text? x = none) :
    fallback env f = .ok (standard f) := by
  unfold fallback
  split
  · rfl
  · rename_i x hx
    rw [h x hx]

theorem toValue_injective (f : Field) : Function.Injective f.toValue := by
  intro content content' h
  cases f
  case scheme =>
    cases content <;> cases content' <;> first | rfl | simp [Field.toValue, Scheme.name] at h
  all_goals exact h

/-- What is read of a field is what it is supplied with. -/
theorem contentOf_eq_ok_iff :
    contentOf env entries f = .ok content ↔ Supplies env entries f content := by
  constructor
  · intro h
    -- the sources are tried in their order, and the first that there is decides
    obtain ⟨v, hv, hcheck⟩ := check_of_contentOf h
    cases hfound : entries.get? f.name with
    | some w =>
      rw [contentOf_of_get? hfound] at h
      exact .entry hfound h
    | none =>
      rw [given_of_get?_none hfound] at hv
      by_cases hset : ∃ x text, supplier? f = some x ∧ env.text? x = some text
      · obtain ⟨x, text, hx, htext⟩ := hset
        rw [fallback_of_set hx htext, convert_eq_ok] at hv
        obtain rfl := toValue_of_converts hx hv hcheck
        exact .variable hfound hx htext hv (Field.admits_of_check hcheck)
      · have hunset : ∀ x, supplier? f = some x → env.text? x = none := by
          intro x hx
          rw [Option.eq_none_iff_forall_ne_some]
          exact fun text htext => hset ⟨x, text, hx, htext⟩
        rw [fallback_of_unset hunset] at hv
        cases hv
        obtain ⟨content', hstandard, hvalue⟩ := check_standard f
        rw [hcheck] at hstandard
        cases hstandard
        exact .standard hfound hunset hvalue
  · intro h
    obtain ⟨found, checked⟩ | ⟨lacking, supplied, set, converted, admitted⟩ |
      ⟨lacking, unset, hstandard⟩ := h
    · rw [contentOf_of_get? found]
      exact checked
    · obtain ⟨content', hcheck, hvalue⟩ := check_of_admits admitted
      rw [← toValue_injective f hvalue, ← hcheck]
      refine contentOf_of_given ?_
      rw [given_of_get?_none lacking, fallback_of_set supplied set, convert_eq_ok]
      exact converted
    · obtain ⟨content', hcheck, hvalue⟩ := check_standard f
      rw [← toValue_injective f (hvalue.trans hstandard.symm), ← hcheck]
      refine contentOf_of_given ?_
      rw [given_of_get?_none lacking, fallback_of_unset unset]

theorem readEntries_eq_ok_iff :
    readEntries env entries = .ok s ↔
      (∀ f, contentOf env entries f = .ok (s.get f)) ∧
        ∀ entry ∈ entries, ∃ f : Field, f.name = entry.1 := by
  rw [← unknownFaults_eq_nil_iff]
  constructor
  · intro h
    unfold readEntries at h
    split at h
    · cases h
    · exact gather_eq_ok.1 (mapError_eq_ok.1 h)
  · intro h
    -- a variable that does not convert would have ended the reading before any check
    have hconverts : ∀ f ∈ Field.all, conversionFault? (given env entries f) = none := by
      intro f _
      obtain ⟨v, hv, -⟩ := check_of_contentOf (h.1 f)
      rw [hv]
      rfl
    rw [readEntries, List.findSome?_eq_none_iff.2 hconverts]
    exact mapError_eq_ok.2 (gather_eq_ok.2 h)

theorem parse_eq_ok_iff_supplies :
    parse env source (.table entries) = .ok s ↔
      (∀ f, Supplies env entries f (s.get f)) ∧
        ∀ entry ∈ entries, ∃ f : Field, f.name = entry.1 := by
  simp only [parse_eq_ok, readEntries_eq_ok_iff, contentOf_eq_ok_iff]

/-! ## Which variables matter -/

/-- A document is read alike where the variables of the fields that it lacks are alike. -/
theorem parse_congr
    (h : ∀ f x, entries.get? f.name = none → supplier? f = some x → env'.text? x = env.text? x) :
    parse env' source (.table entries) = parse env source (.table entries) := by
  have hgiven : given env' entries = given env entries := by
    funext f
    unfold given
    split
    · rfl
    · rename_i hlacking
      unfold fallback
      split
      · rfl
      · rename_i x hx
        rw [h f x hlacking hx]
  have hcontent : contentOf env' entries = contentOf env entries := by
    funext f
    rw [contentOf, contentOf, hgiven]
  simp only [parse, read, readEntries, hgiven, hcontent]

theorem supplier?_injective {g : Field} {x : Variable} (hf : supplier? f = some x)
    (hg : supplier? g = some x) : f = g := by
  cases f <;> cases hf <;> cases g <;> first | rfl | cases hg

end Supplies

/-- What holds of the reading of a table in an environment. -/
structure Precedence (env : Environment) (source : String) (entries : Entries) : Prop where
  /-- The fields that have a variable, and which one. -/
  suppliers : ∀ f x, supplier? f = some x ↔ (f.name, x.name) ∈ variableNames
  /-- The value of each field that nothing else supplies. -/
  standards : (Field.all.map fun f => (f.name, standard f)) = standardEntries
  /-- The variables of the fields that the document lacks decide what comes of it: in another
  environment where these are alike it gives the same settings or fails alike. -/
  determined : ∀ env' : Environment,
    (∀ f x, entries.get? f.name = none → supplier? f = some x → env'.text? x = env.text? x) →
      parse env' source (.table entries) = parse env source (.table entries)
  /-- The variable of a field that the document has does not matter, whatever the entry and whatever
  the text of the variable. -/
  ignored : ∀ env' f x v, supplier? f = some x → entries.get? f.name = some v →
    (∀ y, y ≠ x → Environment.text? env' y = env.text? y) →
      parse env' source (.table entries) = parse env source (.table entries)
  /-- Settings are given exactly if every field is supplied with its content and the document has no
  other keys. -/
  supplied : ∀ s, parse env source (.table entries) = .ok s ↔
    (∀ f, Supplies env entries f (s.get f)) ∧ ∀ entry ∈ entries, ∃ f : Field, f.name = entry.1
  /-- A field that the document lacks and whose variable stands for nothing that its rules admit
  leaves no settings. -/
  refused : ∀ f x text, entries.get? f.name = none → supplier? f = some x →
    env.text? x = some text → (∀ v, Converts f text v → ¬ f.Admits v) →
      ∃ failure, parse env source (.table entries) = .error failure

/-- An entry comes before the variable of its field, and the variable before the standard value. -/
theorem parse_precedence (env : Environment) (source : String) (entries : Entries) :
    Precedence env source entries where
  suppliers _ _ := supplier?_eq_some_iff
  standards := map_standard
  determined _ h := parse_congr h
  ignored env' f x v hx hfound h := by
    refine parse_congr fun g y hlacking hy => h y ?_
    -- no two fields share a variable, so the variable of a given field is that of no lacking one
    rintro rfl
    obtain rfl := supplier?_injective hx hy
    rw [hfound] at hlacking
    cases hlacking
  supplied _ := parse_eq_ok_iff_supplies
  refused f x text hlacking hx htext hrefused := by
    cases hparse : parse env source (.table entries) with
    | error failure => exact ⟨failure, rfl⟩
    | ok s =>
      obtain ⟨found, -⟩ | ⟨-, hx', htext', hv, hadmits⟩ | ⟨-, hunset, -⟩ :=
        (parse_eq_ok_iff_supplies.1 hparse).1 f
      · rw [hlacking] at found
        cases found
      · cases hx.symm.trans hx'
        cases htext.symm.trans htext'
        exact absurd hadmits (hrefused _ hv)
      · rw [hunset x hx] at htext
        cases htext

/-- An environment with a host, a port that is no number, and an empty user. -/
def mixedEnvironment : Environment :=
  .ofPairs [("PGPORT", "many"), ("PGHOST", "db.internal"), ("PGUSER", "")]

/-- A document that has the port is read as if its variable were not there; the host comes from its
variable, and the user is the standard one.  A document that lacks the port gives no settings. -/
theorem parse_precedence_mixed :
    (∃ s, parse mixedEnvironment "<mapping>" (.table [("port", .text "6543")]) = .ok s ∧
      s.port = .int 6543 ∧ s.host = .text "db.internal" ∧ s.username = .text "postgres" ∧
      parse (.ofPairs [("PGHOST", "db.internal")]) "<mapping>"
        (.table [("port", .text "6543")]) = .ok s) ∧
    ∃ failure, parse mixedEnvironment "<mapping>" (.table []) = .error failure := by
  constructor
  · obtain ⟨s, hs, hport, hhost, huser⟩ :
        ∃ s, parse mixedEnvironment "<mapping>" (.table [("port", .text "6543")]) = .ok s ∧
          s.port = .int 6543 ∧ s.host = .text "db.internal" ∧ s.username = .text "postgres" :=
      ⟨_, rfl, rfl, rfl, rfl⟩
    have hignored := (parse_precedence mixedEnvironment "<mapping>"
      [("port", .text "6543")]).ignored (.ofPairs [("PGHOST", "db.internal")]) .port .port
        (.text "6543") rfl rfl (fun y hy => by cases y <;> first | rfl | exact absurd rfl hy)
    exact ⟨s, hs, hport, hhost, huser, hignored.trans hs⟩
  · refine (parse_precedence mixedEnvironment "<mapping>" []).refused .port .port "many"
      rfl rfl rfl fun v hv => ?_
    cases hv with
    | integer _ hn => cases hn
    | text hf => exact absurd rfl hf.1

end PostgresAccess.Settings
