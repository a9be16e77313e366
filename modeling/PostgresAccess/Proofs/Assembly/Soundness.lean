import PostgresAccess.Proofs.Assembly.Course
import PostgresAccess.Proofs.Settings.Validity

/-!
# Assembling valid settings

Settings that were read can be assembled.  Their rules guarantee each thing that assembling asks of
them, so the target is always resolved (`targetOf_of_areValid`) and the descriptor is always put
together (`describe_of_areValid`); what remains to fail is the helper's command line, which no rule
looks at, and the helper itself.  The descriptor keeps the guarantees of the rules and adds those of
the normalisations on the way, which `Descriptor.Fulfils` lists.
-/

namespace PostgresAccess

/-- What holds of a descriptor of valid settings. -/
structure Descriptor.Fulfils (d : Descriptor) (s : Settings) : Prop where
  host : d.host.IsNonEmptyText
  database : d.database.IsNonEmptyText
  username : d.username.IsNonEmptyText
  port : ∃ n : Int, d.port = .int n ∧ 1 ≤ n ∧ n ≤ 65535
  connectTimeout : d.connectTimeout.IsIntegerFrom (-1)
  maxConnections : d.maxConnections.IsIntegerFrom (-1)
  /-- The version that the text of the settings reads as, in all of its parts. -/
  expectedVersion : ∃ t version, s.expectedVersion = .text t ∧ Version.parse t = .ok version ∧
    d.expectedVersion = .version version
  clientCertificate : d.clientCertificate = none ∨
    ∃ c, d.clientCertificate = some c ∧ c.HasPaths
  rootCertificate : d.rootCertificate.IsNonEmptyOrMissing
  databaseUsername : d.databaseUsername.IsNonEmptyOrMissing
  jumphost : d.jumphost.IsNonEmptyOrMissing
  /-- There is a tunnel exactly when there is a jump host. -/
  tunnel : d.tunneledPort ≠ .null ↔ d.jumphost ≠ .null
  tunneledPort : d.tunneledPort ≠ .null →
    ∃ n : Int, d.tunneledPort = .int n ∧ 1024 ≤ n ∧ n ≤ 65535
  /-- Advice is given exactly when the older name of the TLS mode is in force. -/
  deprecations : d.deprecations ≠ [] ↔ s.sslmode = .null ∧ s.legacySslmode.IsNonEmptyText

theorem Certificate.ofContent?_toBlock (c : Certificate) :
    Certificate.ofContent? c.toBlock = .ok (some c) := rfl

namespace Assembly

open Result

variable {s : Settings}

/-! ## The target -/

section Target

variable {allocator : Tunnel.Allocator}

/-- The rules leave nothing of the target open but the port of the tunnel. -/
theorem targetOf_eq_bind (allocator : Tunnel.Allocator) (h : s.AreValid) :
    ∃ version, targetOf allocator s =
      (tunnelPort? allocator s.host s.port s.jumphost).map fun entry =>
        ⟨version, s.host, s.port, entry⟩ := by
  obtain ⟨t, version, ht, hversion⟩ : ∃ t version, s.expectedVersion = .text t ∧
      Version.parse t = .ok version := h .expectedVersion
  have hhost : s.host.IsNonEmptyText := h .host
  obtain ⟨n, hport, -⟩ : ∃ n : Int, s.port = .int n ∧ 1 ≤ n ∧ n ≤ 65535 := h .port
  have hresolved := resolveVersion_eq_ok.2 ⟨t, ht, hversion⟩
  have hnamed := (require_eq_ok (f := .host)).2 ⟨isMissing_of_isNonEmptyText hhost, rfl⟩
  have hset : require .port s.port = .ok s.port := by
    rw [hport]
    rfl
  refine ⟨version, ?_⟩
  simp only [targetOf, resolveTarget, hresolved, hnamed, hset]
  change (tunnelPort? allocator s.host s.port s.jumphost >>= _) = _
  cases tunnelPort? allocator s.host s.port s.jumphost <;> rfl

theorem targetOf_of_areValid (h : s.AreValid) (hserves : allocator.Serves s) :
    ∃ target, targetOf allocator s = .ok target := by
  obtain ⟨version, htarget⟩ := targetOf_eq_bind allocator h
  have hhost : s.host.IsNonEmptyText := h .host
  obtain ⟨n, hport, low, high⟩ : ∃ n : Int, s.port = .int n ∧ 1 ≤ n ∧ n ≤ 65535 := h .port
  have hwritten : s.port.hasOversized = false := by
    rw [hport]
    exact hasOversized_port low high
  rw [htarget, tunnelPort?_of_serves hserves hhost.hasOversized hwritten]
  exact ⟨_, rfl⟩

theorem not_serves_iff {allocator : Tunnel.Allocator} (h : s.AreValid) :
    ¬ allocator.Serves s ↔ s.jumphost.IsNonEmptyText ∧ allocator.seed.hasOversized = true := by
  have hjumphost : s.jumphost.IsOptionalText := h .jumphost
  rw [Tunnel.Allocator.Serves, Classical.not_imp, hjumphost.isFilled_iff, Bool.not_eq_false]

theorem targetOf_of_not_serves (h : s.AreValid) (hserves : ¬ allocator.Serves s) :
    targetOf allocator s = .error (.number .oversized) := by
  obtain ⟨version, htarget⟩ := targetOf_eq_bind allocator h
  rw [htarget, tunnelPort?_of_not_serves hserves]
  rfl

end Target

/-! ## The password -/

/-- Settings without a source of a password name a helper by a line that is not split. -/
theorem unsplit_of_passwordSource {timeout : Value} {failure : Failure} (h : s.AreValid)
    (hsource : passwordSource timeout s = .error failure) :
    ∃ line fault, s.passwordCommand = .text line ∧ Words.split line = .error fault ∧
      failure = .configuration (.unsplit fault) := by
  by_cases hset : s.password = .null
  · obtain hline | ⟨line, hline⟩ : s.passwordCommand.IsOptionalText := h .passwordCommand
    · rw [passwordSource_of_no_line timeout hset hline] at hsource
      cases hsource
    · rw [passwordSource_of_line timeout hset hline] at hsource
      cases hblank : isBlankText line with
      | true =>
        rw [helperOfLine_of_isBlank timeout hblank] at hsource
        cases hsource
      | false =>
        obtain ⟨fault, hfault, heq⟩ | ⟨command, arguments, -, heq⟩ :=
          helperOfLine_of_not_isBlank timeout hblank <;> rw [heq] at hsource <;> cases hsource
        exact ⟨line, fault, hline, hfault, rfl⟩
  · rw [passwordSource_of_set timeout hset] at hsource
    cases hsource

/-! ## The descriptor -/

theorem ofContent?_of_areValid (h : s.AreValid) :
    ∃ certificate, Certificate.ofContent? s.clientCertificate = .ok certificate ∧
      (certificate = none ∨ ∃ c, certificate = some c ∧ c.HasPaths) := by
  obtain hnone | ⟨c, hpaths, hblock⟩ := h .clientCertificate
  · exact ⟨none, congrArg _ hnone, .inl rfl⟩
  · exact ⟨some c, (congrArg _ hblock).trans c.ofContent?_toBlock, .inr ⟨c, rfl, hpaths⟩⟩

theorem describe_of_areValid (assembler : Assembler) (target : Target) (password : Value)
    (h : s.AreValid) : ∃ d, describe assembler s target password = .ok d := by
  obtain ⟨certificate, hcertificate, -⟩ := ofContent?_of_areValid h
  have hdatabase : s.database.IsNonEmptyText := h .database
  have husername : s.username.IsNonEmptyText := h .username
  exact ⟨_, describe_eq_ok.2 ⟨certificate, hcertificate, isMissing_of_isNonEmptyText hdatabase,
    isMissing_of_isNonEmptyText husername, rfl⟩⟩

/-! ## The helper -/

/-- The helper of valid settings is called once, and the assembling fails only if the helper
does. -/
theorem calls_of_helper {assembler : Assembler} {call : HelperCall} (runner : Runner)
    (hvalid : s.AreValid) (hserves : assembler.allocator.Serves s)
    (hsource : passwordSource assembler.timeout s = .ok (.helper call)) :
    (assemble assembler runner s).calls = [call] ∧
    ∀ failure, (assemble assembler runner s).outcome = .error failure →
      (runner call).outcome = .error failure := by
  obtain ⟨target, htarget⟩ := targetOf_of_areValid hvalid hserves
  cases hreply : (runner call).outcome with
  | error refusal =>
    simp only [assemble, htarget, hsource, hreply, true_and]
    rintro failure ⟨⟩
    rfl
  | ok output =>
    obtain ⟨d, hd⟩ := describe_of_areValid assembler target (.text (stripLineEnd output)) hvalid
    simp only [assemble, htarget, hsource, hreply, complete_calls, complete_outcome, hd, true_and]
    intro failure hfailure
    cases hfailure

/-! ## What a descriptor keeps -/

theorem deprecations_ne_nil {s : Settings} (h : s.legacySslmode.IsOptionalText) :
    deprecations s ≠ [] ↔ s.sslmode = .null ∧ s.legacySslmode.IsNonEmptyText := by
  rw [deprecations, usesLegacySslmode, ← h.isFilled_iff]
  cases s.sslmode <;> simp [Value.isNull]

/-- A descriptor of valid settings keeps what the rules guarantee. -/
theorem fulfils_of_describe {assembler : Assembler} {target : Target} {password : Value}
    {d : Descriptor} (h : s.AreValid) (htarget : targetOf assembler.allocator s = .ok target)
    (hd : describe assembler s target password = .ok d) : d.Fulfils s := by
  obtain ⟨version, host, port, entry⟩ := target
  obtain ⟨⟨t, ht, hversion⟩, ⟨-, rfl⟩, ⟨-, rfl⟩, hentry⟩ := targetOf_eq_ok.1 htarget
  obtain ⟨certificate, hcertificate, -, -, rfl⟩ := describe_eq_ok.1 hd
  obtain ⟨c, hc, hpaths⟩ := ofContent?_of_areValid h
  obtain rfl : c = certificate := Except.ok.inj (hc.symm.trans hcertificate)
  have hjumphost : s.jumphost.IsOptionalText := h .jumphost
  have hroot : s.rootCertificate.IsOptionalText := h .rootCertificate
  have huser : s.databaseUsername.IsOptionalText := h .databaseUsername
  exact {
    host := h .host
    database := h .database
    username := h .username
    port := h .port
    connectTimeout := h .connectTimeout
    maxConnections := h .maxConnections
    expectedVersion := ⟨t, version, ht, hversion, rfl⟩
    clientCertificate := hpaths
    rootCertificate := hroot.filled
    databaseUsername := huser.filled
    jumphost := hjumphost.filled
    tunnel := by
      rw [resolved, Value.filled_ne_null, ← isSome_iff_of_tunnelPort? hentry]
      cases entry <;> simp [Value.ofInt?]
    tunneledPort := by
      cases entry with
      | none => exact fun hset => absurd rfl hset
      | some n =>
        intro
        obtain ⟨low, high⟩ := bounds_of_tunnelPort? hentry
        exact ⟨n, rfl, by omega, by omega⟩
    deprecations := deprecations_ne_nil (h .legacySslmode) }

/-! ## Assembling -/

/-- An allocator that has no port for valid settings ends their assembling before any helper is
called. -/
theorem assemble_of_not_serves {assembler : Assembler} (runner : Runner) (h : s.AreValid)
    (hserves : ¬ assembler.allocator.Serves s) :
    assemble assembler runner s = ⟨.error (.number .oversized), deprecationNotices s, []⟩ := by
  simp only [assemble, targetOf_of_not_serves h hserves]

/-- Valid settings that the allocator serves fail on the helper only, and keep what the rules
guarantee otherwise. -/
theorem assemble_sound_of_serves {assembler : Assembler} (runner : Runner) (hvalid : s.AreValid)
    (hserves : assembler.allocator.Serves s) :
    (∀ failure, (assemble assembler runner s).outcome = .error failure →
      (∃ line fault, s.passwordCommand = .text line ∧ Words.split line = .error fault ∧
        failure = .configuration (.unsplit fault)) ∨
      ∃ call, (assemble assembler runner s).calls = [call] ∧
        (runner call).outcome = .error failure) ∧
    ∀ d, (assemble assembler runner s).outcome = .ok d → d.Fulfils s := by
  -- valid settings with a port have a target, so a failure comes from the line or the helper
  cases course assembler runner s with
  | unresolved failure htarget hreport =>
    obtain ⟨target, htarget'⟩ := targetOf_of_areValid hvalid hserves
    rw [htarget] at htarget'
    cases htarget'
  | unsourced target failure htarget hsource hreport =>
    rw [hreport]
    refine ⟨?_, nofun⟩
    rintro _ ⟨⟩
    exact .inl (unsplit_of_passwordSource hvalid hsource)
  | given target password htarget hsource hreport =>
    obtain ⟨d, hd⟩ := describe_of_areValid assembler target password hvalid
    rw [hreport, complete_outcome, hd]
    refine ⟨nofun, ?_⟩
    rintro _ ⟨⟩
    exact fulfils_of_describe hvalid htarget hd
  | refused target call failure htarget hsource hreply hreport =>
    rw [hreport]
    refine ⟨?_, nofun⟩
    rintro _ ⟨⟩
    exact .inr ⟨call, rfl, hreply⟩
  | supplied target call output htarget hsource hreply hreport =>
    obtain ⟨d, hd⟩ :=
      describe_of_areValid assembler target (.text (stripLineEnd output)) hvalid
    rw [hreport, complete_outcome, hd]
    refine ⟨nofun, ?_⟩
    rintro _ ⟨⟩
    exact fulfils_of_describe hvalid htarget hd

end Assembly

open Assembly in
/-- Settings that were read are assembled safely.  An assembling that fails does so because the
helper's command line is not split, because the helper failed, and then with the helper's own
failure, or because there is a jump host and the seed of the allocator cannot be written, on which
it always fails before any helper is called; and a descriptor keeps what the rules guarantee. -/
theorem assemble_sound_of_parse {env : Environment} {source : String} {data : Value} {s : Settings}
    (hparse : Settings.parse env source data = .ok s) (assembler : Assembler) (runner : Runner) :
    (∀ failure, (assemble assembler runner s).outcome = .error failure →
      (∃ line fault, s.passwordCommand = .text line ∧ Words.split line = .error fault ∧
        failure = .configuration (.unsplit fault)) ∨
      (∃ call, (assemble assembler runner s).calls = [call] ∧
        (runner call).outcome = .error failure) ∨
      s.jumphost.IsNonEmptyText ∧ assembler.allocator.seed.hasOversized = true ∧
        failure = .number .oversized) ∧
    (s.jumphost.IsNonEmptyText → assembler.allocator.seed.hasOversized = true →
      (assemble assembler runner s).outcome = .error (.number .oversized) ∧
      (assemble assembler runner s).calls = []) ∧
    ∀ d, (assemble assembler runner s).outcome = .ok d → d.Fulfils s := by
  have hvalid := Settings.areValid_of_parse hparse
  -- an allocator fails valid settings only by its seed, and then before anything else is tried
  by_cases hserves : assembler.allocator.Serves s
  · obtain ⟨hfailures, hdescriptors⟩ := assemble_sound_of_serves runner hvalid hserves
    refine ⟨fun failure hfailure => ?_, fun hjumphost hseed => ?_, hdescriptors⟩
    · obtain hunsplit | hrefused := hfailures failure hfailure
      · exact .inl hunsplit
      · exact .inr (.inl hrefused)
    · exact absurd hserves ((not_serves_iff hvalid).2 ⟨hjumphost, hseed⟩)
  · obtain ⟨hjumphost, hseed⟩ := (not_serves_iff hvalid).1 hserves
    rw [assemble_of_not_serves runner hvalid hserves]
    refine ⟨?_, fun _ _ => ⟨rfl, rfl⟩, nofun⟩
    rintro _ ⟨⟩
    exact .inr (.inr ⟨hjumphost, hseed, rfl⟩)

/-- A document that gives values of other kinds than those that its fields hold. -/
def tunnelledDocument : Value :=
  .table [("host", .text "db.internal"), ("port", .text "6543"), ("jumphost", .text "bastion"),
    ("ssl_mode", .text "require"), ("connect_timeout", .bool false),
    ("clientcert", .list [.table [("cert", .text "a.pem"), ("key", .text "a.key")]]),
    ("password_command", .text "pass show 'db main'")]

/-- The settings of the document. -/
def tunnelledSettings : Settings where
  scheme := .postgres
  host := .text "db.internal"
  port := .int 6543
  database := .text "postgres"
  username := .text "postgres"
  password := .null
  passwordCommand := .text "pass show 'db main'"
  databaseUsername := .null
  superuser := .bool true
  sslmode := .null
  legacySslmode := .text "require"
  clientCertificate := Certificate.toBlock ⟨.text "a.pem", .text "a.key"⟩
  rootCertificate := .null
  connectTimeout := .int 0
  maxConnections := .int 20
  expectedVersion := .text "9.0.0"
  jumphost := .text "bastion"

/-- With a helper that prints a secret, the document has a descriptor. -/
theorem assemble_sound_of_parse_tunnelled :
    Settings.parse .empty "<mapping>" tunnelledDocument = .ok tunnelledSettings ∧
    ∃ d, (assemble ⟨.ofWord 7, .null, .text defaultApplicationName⟩ (fun _ => ⟨.ok "secret\n", []⟩)
        tunnelledSettings).outcome = .ok d ∧ d.Fulfils tunnelledSettings := by
  have hparse : Settings.parse .empty "<mapping>" tunnelledDocument = .ok tunnelledSettings := rfl
  obtain ⟨hfailure, -, hdescriptor⟩ := assemble_sound_of_parse hparse
    ⟨.ofWord 7, .null, .text defaultApplicationName⟩ (fun _ => ⟨.ok "secret\n", []⟩)
  refine ⟨hparse, ?_⟩
  cases houtcome : (assemble ⟨.ofWord 7, .null, .text defaultApplicationName⟩
      (fun _ => ⟨.ok "secret\n", []⟩) tunnelledSettings).outcome with
  | ok d => exact ⟨d, rfl, hdescriptor d houtcome⟩
  | error failure =>
    obtain ⟨line, fault, hline, hsplit, -⟩ | ⟨call, -, hreply⟩ | ⟨-, hseed, -⟩ :=
      hfailure failure houtcome
    · cases hline
      have hwords : Words.split "pass show 'db main'" = .ok ["pass", "show", "db main"] := rfl
      rw [hwords] at hsplit
      cases hsplit
    · cases hreply
    · have hwritten := Tunnel.Allocator.serves_ofWord 7 tunnelledSettings rfl
      exact Bool.noConfusion (hseed.symm.trans hwritten)

/-- The assembling of settings that were read may fail on the seed of the allocator alone. -/
theorem not_always_sound :
    ¬ ∀ (env : Environment) (source : String) (data : Value) (s : Settings)
        (assembler : Assembler) (runner : Runner) (failure : Failure),
      Settings.parse env source data = .ok s →
      (assemble assembler runner s).outcome = .error failure →
      (∃ fault, failure = .configuration (.unsplit fault)) ∨
        ∃ call, (runner call).outcome = .error failure := by
  intro h
  let assembler : Assembler :=
    ⟨⟨.int (Nat.pow 10 Numeral.digitLimit : Nat)⟩, .null, .text defaultApplicationName⟩
  have hparse : Settings.parse .empty "<mapping>" tunnelledDocument = .ok tunnelledSettings := rfl
  have hvalid := Settings.areValid_of_parse hparse
  have hjumphost : tunnelledSettings.jumphost.IsNonEmptyText := ⟨"bastion", rfl, by decide⟩
  have hoversized : assembler.allocator.seed.hasOversized = true := by decide +kernel
  have hserves := (Assembly.not_serves_iff hvalid).2 ⟨hjumphost, hoversized⟩
  have hreport :=
    Assembly.assemble_of_not_serves (fun _ => ⟨.ok "secret\n", []⟩) hvalid hserves
  obtain ⟨fault, hfault⟩ | ⟨call, hcall⟩ :=
    h _ _ _ _ _ _ _ hparse (congrArg Report.outcome hreport)
  · cases hfault
  · cases hcall

end PostgresAccess
