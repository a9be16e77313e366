import Mathlib.Logic.Basic
import PostgresAccess.Client
import PostgresAccess.Proofs.Assembly.Soundness

/-!
# How a connection is protected

The TLS argument of the driver is settled in two places.  The assembler chooses the mode, of which
the settings may hold two, and drops a file of authorities whose name is empty; the client makes a
context of what is left, and takes checks off it that the mode does not ask for.  Nothing gets lost
on the way (`Client.protected_of_parse`): the context trusts, checks and shows what the settings
say, and a connection without a context goes by the mode itself.

A mode is a text without fixed form.  Of the contexts, only those of `verify-ca` and `verify-full`
check anything; of the modes, `disable` alone forbids a context.
-/

namespace PostgresAccess

open Assembly Result

/-! ## What settings ask for -/

namespace Settings

/-- The mode of the settings: the one under the present name, even an empty one; if that is missing,
the one under the older name, unless it is empty. -/
def tlsMode? (s : Settings) : Option String :=
  s.sslmode.text?.or (s.legacySslmode.text?.filter (· ≠ ""))

/-- There is something to check a server by or to show it: a certificate of the client, or a file of
authorities. -/
def HasTlsMaterial (s : Settings) : Prop :=
  s.clientCertificate ≠ .null ∨ s.rootCertificate.IsNonEmptyText

/-- A connection needs a context: there is material for one, and the mode does not forbid it. -/
def AsksForContext (s : Settings) : Prop := s.HasTlsMaterial ∧ s.tlsMode? ≠ some "disable"

end Settings

/-- A certificate and its key are kept in their places by the value that holds them. -/
theorem Value.ofCertificate?_injective : Function.Injective Value.ofCertificate? := by
  rintro (_ | ⟨cert, key⟩) (_ | ⟨cert', key'⟩) h <;> cases h <;> rfl

/-- The context is the one that the settings ask for. -/
structure Tls.Context.IsOf (c : Context) (s : Settings) : Prop where
  /-- The authorities of the settings are trusted, and those of the system if there are none. -/
  authorities : s.rootCertificate.IsNonEmptyText → c.authorities = s.rootCertificate
  standardAuthorities : ¬ s.rootCertificate.IsNonEmptyText → c.authorities = .null
  certificate : c.checksCertificate = true ↔
    s.tlsMode? = some "verify-ca" ∨ s.tlsMode? = some "verify-full"
  hostname : c.checksHostname = true ↔ s.tlsMode? = some "verify-full"
  /-- The certificate of the settings is shown with its key, and none if there is none. -/
  chain : s.clientCertificate = .ofCertificate? c.chain

/-- A connection with some settings is protected as they say by its TLS argument. -/
structure Tls.Protects (tls : Option Tls.Argument) (s : Settings) : Prop where
  context : s.AsksForContext → ∃ c, tls = some (.context c) ∧ c.IsOf s
  mode : ¬ s.AsksForContext → ∀ mode, s.tlsMode? = some mode → mode ≠ "" →
    tls = some (.mode (.text mode))
  absent : ¬ s.AsksForContext → s.tlsMode? = none ∨ s.tlsMode? = some "" → tls = none

/-! ## Contexts -/

namespace Tls

theorem isMode_eq_true {mode : Value} {name : String} :
    isMode mode name = true ↔ mode.text? = some name := beq_iff_eq

theorem verifiesCertificate_eq_true {mode : Value} :
    verifiesCertificate mode = true ↔
      mode.text? = some "verify-ca" ∨ mode.text? = some "verify-full" := by
  rw [verifiesCertificate, Bool.or_eq_true, isMode_eq_true, isMode_eq_true]

theorem relaxed_strict (authorities mode : Value) :
    (Context.strict authorities).relaxed mode =
      ⟨authorities, isMode mode "verify-full", verifiesCertificate mode, none⟩ := by
  unfold Context.relaxed
  by_cases hca : mode.text? = some "verify-ca"
  · have hfull : isMode mode "verify-full" = false := by
      rw [isMode, hca]
      decide
    have hverifies : verifiesCertificate mode = true := verifiesCertificate_eq_true.2 (.inl hca)
    simp [hverifies, isMode_eq_true.2 hca, hfull, Context.strict]
  -- without `verify-ca` both checks are there or neither is
  · have hca' : isMode mode "verify-ca" = false := by
      rw [← Bool.not_eq_true, isMode_eq_true]
      exact hca
    have hsame : verifiesCertificate mode = isMode mode "verify-full" := by
      rw [verifiesCertificate, hca', Bool.false_or]
    cases hfull : isMode mode "verify-full" <;> simp [hsame, hca', hfull, Context.strict]

theorem withChain_eq_ok {library : Library} {start c : Context} {chain : Option Certificate}
    (hstart : start.chain = none) (h : start.withChain library chain = .ok c) :
    c = { start with chain } := by
  cases chain with
  | none =>
    cases h
    rw [← hstart]
  | some certificate =>
    obtain ⟨_, -, rfl⟩ := map_eq_ok.1 h
    rfl

/-- A context checks what its mode asks for, and holds the material that it is made of. -/
theorem context_eq_ok {library : Library} {mode authorities : Value}
    {chain : Option Certificate} {c : Context}
    (h : context library mode authorities chain = .ok c) :
    c = ⟨authorities, isMode mode "verify-full", verifiesCertificate mode, chain⟩ := by
  obtain ⟨-, -, h⟩ := bind_eq_ok.1 h
  split at h
  · cases h
  · rw [relaxed_strict] at h
    exact withChain_eq_ok rfl h

end Tls

/-! ## From the settings to the descriptor -/

namespace Assembly

variable {s : Settings}

theorem text?_resolveSslmode (hmode : s.sslmode.IsOptionalText)
    (hlegacy : s.legacySslmode.IsOptionalText) : (resolveSslmode s).text? = s.tlsMode? := by
  unfold resolveSslmode Settings.tlsMode?
  obtain hnone | ⟨t, ht⟩ := hmode
  · rw [hnone]
    obtain hnone' | ⟨t, ht⟩ := hlegacy
    · rw [hnone']
      rfl
    · rw [ht]
      by_cases hempty : t = "" <;>
        simp [hempty, Value.isNull, Value.filled, Value.isFilled, Value.text?, Option.filter]
  · rw [ht]
    rfl

theorem isOptionalText_resolveSslmode (hmode : s.sslmode.IsOptionalText)
    (hlegacy : s.legacySslmode.IsOptionalText) : (resolveSslmode s).IsOptionalText := by
  unfold resolveSslmode
  split
  · unfold Value.filled
    split
    · exact hlegacy
    · exact .inl rfl
  · exact hmode

/-- A certificate is found in the settings exactly if they hold one. -/
theorem eq_ofCertificate? {v : Value} {certificate : Option Certificate}
    (hv : Field.clientCertificate.Admits v) (h : Certificate.ofContent? v = .ok certificate) :
    v = .ofCertificate? certificate := by
  obtain rfl | ⟨c, -, rfl⟩ := hv
  · cases h
    rfl
  · rw [Certificate.ofContent?_toBlock] at h
    cases h
    rfl

end Assembly

/-- What a descriptor says about the protection is what the settings say. -/
structure Descriptor.KeepsProtection (d : Descriptor) (s : Settings) : Prop where
  mode : d.sslmode.text? = s.tlsMode?
  optional : d.sslmode.IsOptionalText
  certificate : s.clientCertificate = .ofCertificate? d.clientCertificate
  authorities : d.rootCertificate = s.rootCertificate.filled
  optionalAuthorities : s.rootCertificate.IsOptionalText

theorem Assembly.keepsProtection_of_outcome {assembler : Assembler} {runner : Runner} {s : Settings}
    {d : Descriptor} (hvalid : s.AreValid) (h : (assemble assembler runner s).outcome = .ok d) :
    d.KeepsProtection s := by
  obtain ⟨target, password, -, hd⟩ := describe_of_outcome h
  obtain ⟨certificate, hcertificate, -, -, rfl⟩ := describe_eq_ok.1 hd
  have hmode : s.sslmode.IsOptionalText := hvalid .sslmode
  have hlegacy : s.legacySslmode.IsOptionalText := hvalid .legacySslmode
  exact {
    mode := text?_resolveSslmode hmode hlegacy
    optional := isOptionalText_resolveSslmode hmode hlegacy
    certificate := eq_ofCertificate? (hvalid .clientCertificate) hcertificate
    authorities := rfl
    optionalAuthorities := hvalid .rootCertificate }

/-! ## From the descriptor to the argument -/

namespace Descriptor.KeepsProtection

variable {d : Descriptor} {s : Settings} {library : Tls.Library}

theorem hasTlsMaterial_iff (h : d.KeepsProtection s) :
    s.HasTlsMaterial ↔ ¬ (d.clientCertificate.isNone && d.rootCertificate.isNull) = true := by
  unfold Settings.HasTlsMaterial
  rw [h.certificate, h.authorities, ← h.optionalAuthorities.isFilled_iff, ← Value.filled_ne_null,
    Bool.and_eq_true, not_and_or]
  refine or_congr ?_ ?_
  · cases d.clientCertificate <;> simp [Value.ofCertificate?, Certificate.toBlock]
  · cases s.rootCertificate.filled <;> simp [Value.isNull]

theorem asksForContext_iff (h : d.KeepsProtection s) :
    s.AsksForContext ↔ ¬ (d.clientCertificate.isNone && d.rootCertificate.isNull) = true ∧
      ¬ Tls.isMode d.sslmode "disable" = true := by
  rw [Settings.AsksForContext, h.hasTlsMaterial_iff, Tls.isMode_eq_true, h.mode]

/-- Where a context is asked for, the argument is one. -/
theorem argument_of_asksForContext (h : d.KeepsProtection s) (hasks : s.AsksForContext) :
    Tls.argument library d =
      (Tls.context library d.sslmode d.rootCertificate d.clientCertificate).map fun c =>
        some (.context c) := by
  obtain ⟨hmaterial, hmode⟩ := h.asksForContext_iff.1 hasks
  rw [Tls.argument, if_neg hmaterial, if_neg hmode]

/-- Where none is asked for, the argument is the mode, unless it is missing or empty. -/
theorem argument_of_not_asksForContext (h : d.KeepsProtection s) (hasks : ¬ s.AsksForContext) :
    Tls.argument library d =
      .ok (if d.sslmode.isFilled then some (.mode d.sslmode) else none) := by
  rw [h.asksForContext_iff, not_and_or, not_not, not_not] at hasks
  rw [Tls.argument]
  split
  · rfl
  · rename_i hmaterial
    have hdisable := hasks.resolve_left hmaterial
    -- a mode that forbids a context is not empty
    have hfilled : d.sslmode.isFilled = true := by
      rw [h.optional.isFilled_iff]
      exact ⟨_, Value.text?_eq_some.1 (Tls.isMode_eq_true.1 hdisable), by decide⟩
    rw [if_pos hdisable, if_pos hfilled]

/-- A context of what the descriptor holds is the one that the settings ask for. -/
theorem isOf_of_context (h : d.KeepsProtection s) {c : Tls.Context}
    (hc : Tls.context library d.sslmode d.rootCertificate d.clientCertificate = .ok c) :
    c.IsOf s := by
  obtain rfl := Tls.context_eq_ok hc
  have hfilled := h.optionalAuthorities.isFilled_iff
  exact {
    authorities := fun hnamed => by
      show d.rootCertificate = _
      rw [h.authorities, Value.filled, if_pos (hfilled.2 hnamed)]
    standardAuthorities := fun hunnamed => by
      show d.rootCertificate = _
      rw [h.authorities, Value.filled, if_neg (mt hfilled.1 hunnamed)]
    certificate := by
      show Tls.verifiesCertificate d.sslmode = true ↔ _
      rw [Tls.verifiesCertificate_eq_true, h.mode]
    hostname := by
      show Tls.isMode d.sslmode "verify-full" = true ↔ _
      rw [Tls.isMode_eq_true, h.mode]
    chain := h.certificate }

/-- The TLS argument of the descriptor protects the connection as the settings say. -/
theorem protects_of_argument (h : d.KeepsProtection s) {tls : Option Tls.Argument}
    (htls : Tls.argument library d = .ok tls) : Tls.Protects tls s := by
  by_cases hasks : s.AsksForContext
  · rw [h.argument_of_asksForContext hasks, map_eq_ok] at htls
    obtain ⟨c, hc, rfl⟩ := htls
    exact {
      context := fun _ => ⟨c, rfl, h.isOf_of_context hc⟩
      mode := fun hnot => absurd hasks hnot
      absent := fun hnot => absurd hasks hnot }
  · rw [h.argument_of_not_asksForContext hasks] at htls
    cases htls
    -- a mode that is missing or empty leaves no argument at all
    have hfilled := h.optional.isFilled_iff
    refine ⟨fun hcontext => absurd hcontext hasks, fun _ mode hmode hne => ?_, fun _ hmode => ?_⟩
    · rw [← h.mode, Value.text?_eq_some] at hmode
      rw [if_pos (hfilled.2 ⟨mode, hmode, hne⟩), hmode]
    · refine if_neg fun hset => ?_
      obtain ⟨t, ht, hne⟩ := hfilled.1 hset
      rw [← h.mode, ht] at hmode
      simp [Value.text?, hne] at hmode

end Descriptor.KeepsProtection

/-! ## Connections with settings that were read -/

namespace Client

/-- Only the TLS argument can keep the arguments of a connection with a time limit from being
made. -/
theorem arguments_cases (library : Tls.Library) {d : Descriptor} {n : Int}
    (htimeout : d.connectTimeout = .int n) :
    (∃ failure, Tls.argument library d = .error failure ∧
      Client.arguments library d = .error failure) ∨
    ∃ arguments, Tls.argument library d = .ok arguments.tls ∧
      Client.arguments library d = .ok arguments := by
  have hbound : ∃ timeout, bound d.connectTimeout = .ok timeout := by
    rw [htimeout]
    exact ⟨_, rfl⟩
  obtain ⟨timeout, hbound⟩ := hbound
  unfold Client.arguments
  rw [hbound]
  cases htls : Tls.argument library d with
  | error failure => exact .inl ⟨failure, rfl, rfl⟩
  | ok tls => exact .inr ⟨_, rfl, rfl⟩

/-- The settings of a connection reach the driver: the TLS argument protects the connection as
settings that were read say.  Without need of a context there is nothing to fail. -/
theorem protected_of_parse {env : Environment} {source : String} {data : Value} {s : Settings}
    {assembler : Assembler} {runner : Runner} {d : Descriptor} {library : Tls.Library}
    (hparse : Settings.parse env source data = .ok s)
    (hassembled : (assemble assembler runner s).outcome = .ok d) :
    (∀ arguments, Client.arguments library d = .ok arguments → Tls.Protects arguments.tls s) ∧
    ∀ failure, Client.arguments library d = .error failure → s.AsksForContext := by
  have hvalid := Settings.areValid_of_parse hparse
  have hkeeps := keepsProtection_of_outcome hvalid hassembled
  obtain ⟨n, hn, -⟩ : s.connectTimeout.IsIntegerFrom (-1) := hvalid .connectTimeout
  have htimeout : d.connectTimeout = .int n := by
    obtain ⟨target, certificate, password, -, rfl⟩ := resolved_of_outcome hassembled
    exact hn
  -- the time limit of settings that were read is a number, so only the TLS argument can fail
  obtain ⟨failure, htls, harguments⟩ | ⟨arguments, htls, harguments⟩ :=
    arguments_cases library htimeout
  · rw [harguments]
    refine ⟨nofun, fun _ _ => not_not.1 fun hasks => ?_⟩
    rw [hkeeps.argument_of_not_asksForContext hasks] at htls
    cases htls
  · rw [harguments]
    refine ⟨?_, nofun⟩
    rintro _ ⟨⟩
    exact hkeeps.protects_of_argument htls

/-- A document that asks for a certificate of the server to be verified, and shows one itself. -/
def verifiedDocument : Value :=
  .table [("ssl_mode", .text "verify-full"), ("sslmode", .text "verify-ca"),
    ("sslrootcert", .text "ca.pem"),
    ("clientcert", .table [("key", .text "a.key"), ("cert", .text "a.pem")])]

/-- The document is given a context that verifies the certificate of the server, but not its host
name, and shows the certificate of the client. -/
theorem protected_of_parse_verified :
    ∃ s d arguments, Settings.parse .empty "<mapping>" verifiedDocument = .ok s ∧
      (assemble ⟨.ofWord 7, .null, .text defaultApplicationName⟩ (fun _ => ⟨.ok "", []⟩)
        s).outcome = .ok d ∧
      Client.arguments .permissive d = .ok arguments ∧
      ∃ c, arguments.tls = some (.context c) ∧ c.authorities = .text "ca.pem" ∧
        c.checksCertificate = true ∧ c.checksHostname = false ∧
        c.chain = some ⟨.text "a.pem", .text "a.key"⟩ := by
  obtain ⟨s, d, hparse, hassembled, arguments, harguments, hmode, hroot, hcertificate⟩ :
      ∃ s d, Settings.parse .empty "<mapping>" verifiedDocument = .ok s ∧
        (assemble ⟨.ofWord 7, .null, .text defaultApplicationName⟩ (fun _ => ⟨.ok "", []⟩)
          s).outcome = .ok d ∧
        ∃ arguments, Client.arguments .permissive d = .ok arguments ∧
          s.tlsMode? = some "verify-ca" ∧ s.rootCertificate = .text "ca.pem" ∧
          s.clientCertificate = Certificate.toBlock ⟨.text "a.pem", .text "a.key"⟩ :=
    ⟨_, _, rfl, rfl, _, rfl, rfl, rfl, rfl⟩
  have hnamed : s.rootCertificate.IsNonEmptyText := ⟨"ca.pem", hroot, by decide⟩
  have hasks : s.AsksForContext := ⟨.inr hnamed, by rw [hmode]; decide⟩
  obtain ⟨c, htls, hc⟩ :=
    ((protected_of_parse hparse hassembled).1 arguments harguments).context hasks
  refine ⟨s, d, arguments, hparse, hassembled, harguments, c, htls,
    (hc.authorities hnamed).trans hroot, hc.certificate.2 (.inl hmode), ?_, ?_⟩
  · rw [← Bool.not_eq_true, hc.hostname, hmode]
    decide
  · exact Value.ofCertificate?_injective (hc.chain.symm.trans hcertificate)

end Client

end PostgresAccess
