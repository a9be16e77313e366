import PostgresAccess.Proofs.Assembly.Password
import PostgresAccess.Proofs.Assembly.Soundness

/-!
# Checks after the helper

The expected version, the host and the port are looked at before a helper is called, the database
and the user only afterwards.  So there is one way in which a helper is called in vain: it prints a
password, and then the database or the user turns out to be missing (`failsInVain_iff`).  The rules
of the fields keep both from being empty, so it takes settings that were put together without being
checked (`failsInVain_without_database`).
-/

namespace PostgresAccess

/-- A report of a failure that is not the helper's, although a helper was called. -/
def Report.FailsInVain (runner : Runner) (report : Report) : Prop :=
  report.calls ≠ [] ∧ ∃ failure, report.outcome = .error failure ∧
    ∀ call ∈ report.calls, (runner call).outcome ≠ .error failure

theorem Certificate.exists_ofContent?_of_isDeclared {v : Value}
    (h : Field.isDeclared .clientCertificate v = true) :
    ∃ certificate, Certificate.ofContent? v = .ok certificate := by
  unfold Field.isDeclared at h
  -- of the rows of the declaration, two are about certificates: a block, and anything else
  split at h <;> simp_all [Field.toValue]
  · exact ⟨_, rfl⟩
  · rename_i content _
    have hnone : content = Value.null := by
      cases content <;> simp_all [Value.isNull]
    rw [hnone]
    exact ⟨none, rfl⟩

namespace Assembly

variable {s : Settings} {assembler : Assembler} {runner : Runner}

/-! ## The last checks -/

/-- What comes of an assembling when the database and the user remain to be checked. -/
inductive LastChecks (s : Settings) (outcome : Except Failure Descriptor) : Prop where
  | passed (d : Descriptor) (hdatabase : s.database.IsNonEmptyText)
    (husername : s.username.IsNonEmptyText) (houtcome : outcome = .ok d)
  | noDatabase (hdatabase : ¬ s.database.IsNonEmptyText)
    (houtcome : outcome = .error (.missingAttribute "database"))
  /-- The user is looked at last. -/
  | noUser (hdatabase : s.database.IsNonEmptyText) (husername : ¬ s.username.IsNonEmptyText)
    (houtcome : outcome = .error (.missingAttribute "username"))

/-- A descriptor of declared settings is put together unless one of the two is missing. -/
theorem lastChecks_describe (assembler : Assembler) (target : Target) (password : Value)
    (hdeclared : s.areDeclared = true) :
    LastChecks s (describe assembler s target password) := by
  have hdatabase : s.database.IsOptionalText :=
    Settings.isOptionalText_of_isDeclared (Settings.isDeclared_of_areDeclared hdeclared .database)
  have husername : s.username.IsOptionalText :=
    Settings.isOptionalText_of_isDeclared (Settings.isDeclared_of_areDeclared hdeclared .username)
  obtain ⟨certificate, hpaths⟩ :
      ∃ certificate, Certificate.ofContent? s.clientCertificate = .ok certificate :=
    Certificate.exists_ofContent?_of_isDeclared
      (Settings.isDeclared_of_areDeclared hdeclared .clientCertificate)
  -- the database is looked at first, so a missing user is told only where there is a database
  cases hd : isMissing s.database with
  | true =>
    refine .noDatabase ?_ ?_
    · rw [← isMissing_eq_false_iff hdatabase, hd]
      nofun
    · simp only [describe, hpaths, require, hd]
      rfl
  | false =>
    have hnamed := (isMissing_eq_false_iff hdatabase).1 hd
    cases hu : isMissing s.username with
    | true =>
      refine .noUser hnamed ?_ ?_
      · rw [← isMissing_eq_false_iff husername, hu]
        nofun
      · simp only [describe, hpaths, require, hd, hu]
        rfl
    | false =>
      exact .passed _ hnamed ((isMissing_eq_false_iff husername).1 hu)
        (describe_eq_ok.2 ⟨certificate, hpaths, hd, hu, rfl⟩)

theorem lastChecks_of_printed {call : HelperCall} {output : String}
    (hdeclared : s.areDeclared = true) (hcalls : (assemble assembler runner s).calls = [call])
    (hreply : (runner call).outcome = .ok output) :
    LastChecks s (assemble assembler runner s).outcome := by
  cases course assembler runner s with
  | unresolved failure htarget hreport => simp [hreport] at hcalls
  | unsourced target failure htarget hsource hreport => simp [hreport] at hcalls
  | given target password htarget hsource hreport => simp [hreport] at hcalls
  | refused target called failure htarget hsource hrefused hreport =>
    obtain rfl : called = call := by simpa [hreport] using hcalls
    rw [hreply] at hrefused
    cases hrefused
  | supplied target called printed htarget hsource hprinted hreport =>
    rw [hreport, complete_outcome]
    exact lastChecks_describe assembler target _ hdeclared

/-! ## After a helper has printed -/

theorem printed_of_failsInVain (h : (assemble assembler runner s).FailsInVain runner) :
    ∃ call output, (assemble assembler runner s).calls = [call] ∧
      (runner call).outcome = .ok output := by
  obtain ⟨hcalled, failure, hfailure, hother⟩ := h
  obtain ⟨call, -, -, hcalls⟩ | ⟨hcalls, -⟩ := calls_eq assembler runner s
  · have hmem : call ∈ (assemble assembler runner s).calls := by simp [hcalls]
    cases hreply : (runner call).outcome with
    | ok output => exact ⟨call, output, hcalls, hreply⟩
    | error refusal =>
      have hrefused := outcome_of_refused hmem hreply
      rw [hrefused] at hfailure
      cases hfailure
      exact absurd hreply (hother call hmem)
  · exact absurd hcalls hcalled

/-- What a helper is called in vain for: the database is missing, or else the user. -/
theorem missing_of_failsInVain (hdeclared : s.areDeclared = true)
    (h : (assemble assembler runner s).FailsInVain runner) :
    (¬ s.database.IsNonEmptyText ∧
      (assemble assembler runner s).outcome = .error (.missingAttribute "database")) ∨
    (s.database.IsNonEmptyText ∧ ¬ s.username.IsNonEmptyText ∧
      (assemble assembler runner s).outcome = .error (.missingAttribute "username")) := by
  obtain ⟨call, output, hcalls, hreply⟩ := printed_of_failsInVain h
  cases lastChecks_of_printed hdeclared hcalls hreply with
  | passed d _ _ houtcome =>
    obtain ⟨-, failure, hfailure, -⟩ := h
    rw [houtcome] at hfailure
    cases hfailure
  | noDatabase hdatabase houtcome => exact .inl ⟨hdatabase, houtcome⟩
  | noUser hdatabase husername houtcome => exact .inr ⟨hdatabase, husername, houtcome⟩

theorem failsInVain_of_printed {call : HelperCall} {output : String} {failure : Failure}
    (hcalls : (assemble assembler runner s).calls = [call])
    (hreply : (runner call).outcome = .ok output)
    (hfailure : (assemble assembler runner s).outcome = .error failure) :
    (assemble assembler runner s).FailsInVain runner := by
  refine ⟨by simp [hcalls], failure, hfailure, ?_⟩
  intro called hmem
  obtain rfl : called = call := by simpa [hcalls] using hmem
  rw [hreply]
  nofun

end Assembly

open Assembly

/-! ## Calls in vain -/

/-- With declared settings, a helper is called in vain exactly if it prints something and the
database or the user is missing; what is missing is then what the assembling fails for. -/
theorem failsInVain_iff {s : Settings} (assembler : Assembler) (runner : Runner)
    (hdeclared : s.areDeclared = true) :
    ((assemble assembler runner s).FailsInVain runner ↔
      (∃ call output, (assemble assembler runner s).calls = [call] ∧
        (runner call).outcome = .ok output) ∧
      ¬ (s.database.IsNonEmptyText ∧ s.username.IsNonEmptyText)) ∧
    ((assemble assembler runner s).FailsInVain runner →
      (¬ s.database.IsNonEmptyText →
        (assemble assembler runner s).outcome = .error (.missingAttribute "database")) ∧
      (s.database.IsNonEmptyText →
        (assemble assembler runner s).outcome = .error (.missingAttribute "username"))) := by
  constructor
  · constructor
    · intro hvain
      refine ⟨printed_of_failsInVain hvain, ?_⟩
      rintro ⟨hdatabase, husername⟩
      obtain ⟨hmissing, -⟩ | ⟨-, hmissing, -⟩ := missing_of_failsInVain hdeclared hvain
      · exact hmissing hdatabase
      · exact hmissing husername
    -- a helper that has printed something is followed by the last checks alone
    · rintro ⟨⟨call, output, hcalls, hreply⟩, hmissing⟩
      cases lastChecks_of_printed hdeclared hcalls hreply with
      | passed d hdatabase husername houtcome => exact absurd ⟨hdatabase, husername⟩ hmissing
      | noDatabase _ houtcome => exact failsInVain_of_printed hcalls hreply houtcome
      | noUser _ _ houtcome => exact failsInVain_of_printed hcalls hreply houtcome
  · intro hvain
    obtain ⟨hdatabase, houtcome⟩ | ⟨hdatabase, -, houtcome⟩ :=
      missing_of_failsInVain hdeclared hvain
    · exact ⟨fun _ => houtcome, fun hnamed => absurd hnamed hdatabase⟩
    · exact ⟨fun hmissing => absurd hdatabase hmissing, fun _ => houtcome⟩

/-- A helper that prints a secret, whatever it is called with. -/
def printingRunner : Runner := fun _ => ⟨.ok "secret\n", []⟩

/-- Settings with an empty user, put together without being checked. -/
def userlessSettings : Settings := uncheckedSettings.set .username (.text "")

/-- The helper of these settings prints a password, and the user is missing. -/
theorem failsInVain_iff_userless :
    userlessSettings.areDeclared = true ∧
    (assemble ⟨.ofWord 7, .int 30, .text defaultApplicationName⟩ printingRunner
      userlessSettings).FailsInVain printingRunner ∧
    (assemble ⟨.ofWord 7, .int 30, .text defaultApplicationName⟩ printingRunner
      userlessSettings).outcome = .error (.missingAttribute "username") := by
  have hdeclared : userlessSettings.areDeclared = true := rfl
  obtain ⟨hiff, hfailure⟩ := failsInVain_iff ⟨.ofWord 7, .int 30, .text defaultApplicationName⟩
    printingRunner hdeclared
  have hempty : ¬ userlessSettings.username.IsNonEmptyText := by
    rintro ⟨t, ht, hne⟩
    cases ht
    exact hne rfl
  have hvain := hiff.2 ⟨⟨_, _, rfl, rfl⟩, fun hnamed => hempty hnamed.2⟩
  exact ⟨hdeclared, hvain, (hfailure hvain).2 ⟨"ledger", rfl, by decide⟩⟩

/-- Settings with an empty database whose other attributes are valid. -/
def databaselessSettings : Settings :=
  (tunnelledSettings.set .jumphost .null).set .database (.text "")

/-- The helper of these settings is called, and prints a password, though they lack a database and
cannot be assembled. -/
theorem failsInVain_without_database :
    databaselessSettings.areDeclared = true ∧
    (assemble ⟨.ofWord 7, .null, .text defaultApplicationName⟩ printingRunner
      databaselessSettings).outcome = .error (.missingAttribute "database") ∧
    (assemble ⟨.ofWord 7, .null, .text defaultApplicationName⟩ printingRunner
      databaselessSettings).calls = [⟨"pass", ["show", "db main"], .null⟩] ∧
    (assemble ⟨.ofWord 7, .null, .text defaultApplicationName⟩ printingRunner
      databaselessSettings).FailsInVain printingRunner := by
  have hcalls : (assemble ⟨.ofWord 7, .null, .text defaultApplicationName⟩ printingRunner
      databaselessSettings).calls = [⟨"pass", ["show", "db main"], .null⟩] := rfl
  exact ⟨rfl, rfl, hcalls, failsInVain_of_printed hcalls rfl rfl⟩

end PostgresAccess
