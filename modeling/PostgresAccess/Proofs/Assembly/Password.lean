import PostgresAccess.Proofs.Assembly.Course
import PostgresAccess.Settings.Reading

/-!
# Where the password comes from

Assembling calls a helper at most once, and only when nothing else decides: `Settings.AwaitsHelper`
says what has to hold of the settings for that.  The statements here are about all settings whose
fields hold values of the declared kinds, checked or not.  The main result is `assemble_password`:
when the helper is called and with what, what becomes of its failure, and what the password of a
descriptor is.

`LineEndRemoved` says what it means to remove one line end from the end of a text.
-/

namespace PostgresAccess

/-! ## Line ends -/

/-- The second text is the first without one line end at its end, if there is one: a carriage return
and a line feed count as one line end, and so does a line feed alone. -/
inductive LineEndRemoved : String → String → Prop
  | pair (t : String) : LineEndRemoved (t ++ "\r\n") t
  | feed (t : String) (h : ¬ ∃ u, t = u ++ "\r") : LineEndRemoved (t ++ "\n") t
  | absent (t : String) (h : ¬ ∃ u, t = u ++ "\n") : LineEndRemoved t t

namespace Assembly

theorem exists_append_of_reverse {t : String} {c : Char} {rest : List Char}
    (h : t.toList.reverse = c :: rest) : ∃ u, t = u ++ String.singleton c := by
  have hchars : t.toList = rest.reverse ++ [c] := by
    rw [← List.reverse_reverse t.toList, h, List.reverse_cons]
  refine ⟨String.ofList rest.reverse, String.toList_inj.1 ?_⟩
  rw [hchars, String.toList_append, String.toList_ofList, String.toList_singleton]

theorem stripLineEnd_pair (t : String) : stripLineEnd (t ++ "\r\n") = t := by
  simp [stripLineEnd, dropLineEnd]

theorem stripLineEnd_feed {t : String} (h : ¬ ∃ u, t = u ++ "\r") :
    stripLineEnd (t ++ "\n") = t := by
  have hdrop : dropLineEnd ('\n' :: t.toList.reverse) = t.toList.reverse := by
    unfold dropLineEnd
    split
    · rename_i rest heq
      exact absurd (exists_append_of_reverse (List.cons.inj heq).2) h
    · rename_i heq
      exact (List.cons.inj heq).2.symm
    · rename_i hfeed
      exact absurd rfl (hfeed _)
  simp [stripLineEnd, hdrop]

theorem stripLineEnd_absent {t : String} (h : ¬ ∃ u, t = u ++ "\n") : stripLineEnd t = t := by
  have hdrop : dropLineEnd t.toList.reverse = t.toList.reverse := by
    unfold dropLineEnd
    split
    · rename_i heq
      exact absurd (exists_append_of_reverse heq) h
    · rename_i heq
      exact absurd (exists_append_of_reverse heq) h
    · rfl
  simp [stripLineEnd, hdrop]

/-- Stripping removes one line end. -/
theorem stripLineEnd_eq_iff {output t : String} :
    stripLineEnd output = t ↔ LineEndRemoved output t := by
  constructor
  · rintro rfl
    by_cases hpair : ∃ u, output = u ++ "\r\n"
    · obtain ⟨u, rfl⟩ := hpair
      rw [stripLineEnd_pair]
      exact .pair u
    · by_cases hfeed : ∃ u, output = u ++ "\n"
      · obtain ⟨u, rfl⟩ := hfeed
        -- a return before the line feed would make it a pair
        have hlone : ¬ ∃ w, u = w ++ "\r" := by
          rintro ⟨w, rfl⟩
          exact hpair ⟨w, String.append_assoc⟩
        rw [stripLineEnd_feed hlone]
        exact .feed u hlone
      · rw [stripLineEnd_absent hfeed]
        exact .absent output hfeed
  · rintro (_ | ⟨_, h⟩ | ⟨_, h⟩)
    · exact stripLineEnd_pair t
    · exact stripLineEnd_feed h
    · exact stripLineEnd_absent h

end Assembly

/-! ## Declared settings -/

namespace Settings

variable {s : Settings}

theorem isDeclared_of_areDeclared (h : s.areDeclared = true) (f : Field) :
    f.isDeclared (s.get f) = true :=
  List.all_eq_true.1 h f f.mem_all

theorem isOptionalText_of_isDeclared {v : Value} (h : (v.isNull || v.text?.isSome) = true) :
    v.IsOptionalText := by
  cases v <;> simp_all [Value.IsOptionalText, Value.isNull, Value.text?]

theorem isMissing_port (h : s.areDeclared = true) :
    Assembly.isMissing s.port = false ↔ s.port ≠ .null := by
  have hport : (s.port.isNull || s.port.int?.isSome) = true := isDeclared_of_areDeclared h .port
  cases hs : s.port <;> simp_all [Assembly.isMissing, Value.isNull, Value.int?]

/-- The settings name a helper by a command line that is not blank. -/
def HasCommand (s : Settings) : Prop :=
  ∃ line, s.passwordCommand = .text line ∧ ∃ c ∈ line.toList, Text.isBlank c = false

/-- What has to hold of settings for a helper to be called: the target is named, no password is
given, not even an empty one, and the command line names a helper and splits. -/
structure AwaitsHelper (s : Settings) : Prop where
  expectedVersion : ∃ t version, s.expectedVersion = .text t ∧ Version.parse t = .ok version
  host : s.host.IsNonEmptyText
  port : s.port ≠ .null
  password : s.password = .null
  command : s.HasCommand
  words : ∃ line words, s.passwordCommand = .text line ∧ Words.split line = .ok words

end Settings

namespace Assembly

variable {s : Settings}

/-! ## When a helper is called -/

/-- The target of declared settings is resolved when the expected version reads as one and a host
and a port are named. -/
theorem exists_targetOf {allocator : Tunnel.Allocator} (hserves : allocator.Serves s)
    (hdeclared : s.areDeclared = true) (hwritten : s.port.hasOversized = false) :
    (∃ target, targetOf allocator s = .ok target) ↔
      (∃ t version, s.expectedVersion = .text t ∧ Version.parse t = .ok version) ∧
        s.host.IsNonEmptyText ∧ s.port ≠ .null := by
  have hoptional : s.host.IsOptionalText :=
    Settings.isOptionalText_of_isDeclared (Settings.isDeclared_of_areDeclared hdeclared .host)
  constructor
  · rintro ⟨⟨version, host, port, entry⟩, htarget⟩
    obtain ⟨⟨t, ht, hversion⟩, ⟨hhost, -⟩, ⟨hport, -⟩, -⟩ := targetOf_eq_ok.1 htarget
    exact ⟨⟨t, version, ht, hversion⟩, (isMissing_eq_false_iff hoptional).1 hhost,
      (Settings.isMissing_port hdeclared).1 hport⟩
  · rintro ⟨⟨t, version, ht, hversion⟩, hhost, hport⟩
    have hentry := tunnelPort?_of_serves hserves hhost.hasOversized hwritten
    have hnamed := (Settings.isMissing_port hdeclared).2 hport
    exact ⟨⟨version, s.host, s.port, _⟩, targetOf_eq_ok.2
      ⟨⟨t, ht, hversion⟩, ⟨isMissing_of_isNonEmptyText hhost, rfl⟩, ⟨hnamed, rfl⟩, hentry⟩⟩

theorem exists_line_of_helper {timeout : Value} {call : HelperCall}
    (hset : s.password = .null) (h : passwordSource timeout s = .ok (.helper call)) :
    ∃ line, s.passwordCommand = .text line := by
  rw [passwordSource, if_neg (fun hgiven => isPasswordSet_eq_true.1 hgiven hset)] at h
  split at h
  · rename_i line hline
    exact ⟨line, hline⟩
  · split at h <;> cases h

/-- A helper is the source of the password when none is given and the command line, which is not
blank, splits; its first word names the helper. -/
theorem passwordSource_eq_helper {timeout : Value} {call : HelperCall} :
    passwordSource timeout s = .ok (.helper call) ↔
      s.password = .null ∧ ∃ line command arguments, s.passwordCommand = .text line ∧
        isBlankText line = false ∧ Words.split line = .ok (command :: arguments) ∧
        call = ⟨command, arguments, timeout⟩ := by
  constructor
  · intro h
    by_cases hset : s.password = .null
    · obtain ⟨line, hline⟩ := exists_line_of_helper hset h
      rw [passwordSource_of_line timeout hset hline] at h
      cases hblank : isBlankText line with
      | true =>
        rw [helperOfLine_of_isBlank timeout hblank] at h
        cases h
      | false =>
        obtain ⟨fault, -, heq⟩ | ⟨command, arguments, hsplit, heq⟩ :=
          helperOfLine_of_not_isBlank timeout hblank <;> rw [heq] at h <;> cases h
        exact ⟨hset, line, command, arguments, hline, hblank, hsplit, rfl⟩
    · rw [passwordSource_of_set timeout hset] at h
      cases h
  · rintro ⟨hset, line, command, arguments, hline, hblank, hsplit, rfl⟩
    rw [passwordSource_of_line timeout hset hline]
    obtain ⟨fault, hfault, -⟩ | ⟨_, _, hwords, heq⟩ := helperOfLine_of_not_isBlank timeout hblank
    · rw [hsplit] at hfault
      cases hfault
    · rw [hsplit] at hwords
      cases hwords
      exact heq

/-- Of declared settings, a password that is known without a helper is the one that is given, or
empty if neither a password nor a line that is not blank is given. -/
theorem password_of_given {timeout password : Value} (hdeclared : s.areDeclared = true)
    (h : passwordSource timeout s = .ok (.given password)) :
    (s.password ≠ .null ∧ password = s.password) ∨
    (s.password = .null ∧ password = .text "" ∧ ¬ s.HasCommand) := by
  have hgiven : s.password.IsOptionalText :=
    Settings.isOptionalText_of_isDeclared (Settings.isDeclared_of_areDeclared hdeclared .password)
  have hcommand : s.passwordCommand.IsOptionalText :=
    Settings.isOptionalText_of_isDeclared
      (Settings.isDeclared_of_areDeclared hdeclared .passwordCommand)
  obtain hset | ⟨t, ht⟩ := hgiven
  · refine .inr ⟨hset, ?_⟩
    obtain hnone | ⟨line, hline⟩ := hcommand
    · rw [passwordSource_of_no_line timeout hset hnone] at h
      cases h
      simp [Settings.HasCommand, hnone]
    -- a blank line counts as no command line; any other one would have named a helper
    · rw [passwordSource_of_line timeout hset hline] at h
      cases hblank : isBlankText line with
      | true =>
        rw [helperOfLine_of_isBlank timeout hblank] at h
        cases h
        refine ⟨rfl, ?_⟩
        rintro ⟨line', hline', hsome⟩
        obtain rfl : line = line' := Value.text.inj (hline.symm.trans hline')
        rw [isBlankText_eq_false.2 hsome] at hblank
        cases hblank
      | false =>
        obtain ⟨fault, -, heq⟩ | ⟨command, arguments, -, heq⟩ :=
          helperOfLine_of_not_isBlank timeout hblank <;> rw [heq] at h <;> cases h
  · have hset : s.password ≠ .null := by
      rw [ht]
      nofun
    rw [passwordSource_of_set timeout hset] at h
    cases h
    refine .inl ⟨hset, ?_⟩
    by_cases hempty : t = ""
    · simp [ht, hempty, Value.isFilled]
    · simp [ht, hempty, Value.isFilled]

/-! ## What is called -/

/-- A helper is called exactly when the target is resolved and the helper is the source of the
password, and then it is the only call. -/
theorem calls_eq (assembler : Assembler) (runner : Runner) (s : Settings) :
    (∃ call, (∃ target, targetOf assembler.allocator s = .ok target) ∧
      passwordSource assembler.timeout s = .ok (.helper call) ∧
      (assemble assembler runner s).calls = [call]) ∨
    ((assemble assembler runner s).calls = [] ∧
      ∀ target call, targetOf assembler.allocator s = .ok target →
        passwordSource assembler.timeout s ≠ .ok (.helper call)) := by
  cases course assembler runner s with
  | unresolved failure htarget hreport => exact .inr (by simp [hreport, htarget])
  | unsourced target failure htarget hsource hreport => exact .inr (by simp [hreport, hsource])
  | given target password htarget hsource hreport => exact .inr (by simp [hreport, hsource])
  | refused target call failure htarget hsource hreply hreport =>
    exact .inl ⟨call, ⟨target, htarget⟩, hsource, by rw [hreport]⟩
  | supplied target call output htarget hsource hreply hreport =>
    exact .inl ⟨call, ⟨target, htarget⟩, hsource, by rw [hreport, complete_calls]⟩

theorem passwordSource_of_mem_calls {assembler : Assembler} {runner : Runner} {call : HelperCall}
    (h : call ∈ (assemble assembler runner s).calls) :
    passwordSource assembler.timeout s = .ok (.helper call) := by
  obtain ⟨called, -, hsource, hcalls⟩ | ⟨hcalls, -⟩ := calls_eq assembler runner s
  · rw [hcalls] at h
    obtain rfl := List.mem_singleton.1 h
    exact hsource
  · rw [hcalls] at h
    cases h

/-- Declared settings await a helper exactly when the target is resolved and a helper is the source
of the password. -/
theorem awaitsHelper_iff {assembler : Assembler} (hserves : assembler.allocator.Serves s)
    (hdeclared : s.areDeclared = true) (hwritten : s.port.hasOversized = false) :
    s.AwaitsHelper ↔
      (∃ target, targetOf assembler.allocator s = .ok target) ∧
      ∃ call, passwordSource assembler.timeout s = .ok (.helper call) := by
  rw [exists_targetOf hserves hdeclared hwritten]
  constructor
  · rintro ⟨hversion, hhost, hport, hset, ⟨line, hline, hblank⟩, line', words, hline', hsplit⟩
    obtain rfl : line = line' := Value.text.inj (hline.symm.trans hline')
    refine ⟨⟨hversion, hhost, hport⟩, ?_⟩
    -- a line that is not blank has a first word, which names the helper
    cases words with
    | nil => exact absurd hsplit (Words.split_ne_nil hblank)
    | cons command arguments =>
      exact ⟨_, passwordSource_eq_helper.2
        ⟨hset, line, command, arguments, hline, isBlankText_eq_false.2 hblank, hsplit, rfl⟩⟩
  · rintro ⟨⟨hversion, hhost, hport⟩, call, hsource⟩
    obtain ⟨hset, line, command, arguments, hline, hblank, hsplit, -⟩ :=
      passwordSource_eq_helper.1 hsource
    exact ⟨hversion, hhost, hport, hset, ⟨line, hline, isBlankText_eq_false.1 hblank⟩,
      line, _, hline, hsplit⟩

/-! ## What the password is -/

/-- A descriptor holds the password that is known without a helper, or what the only call printed
without one line end. -/
theorem password_of_outcome {assembler : Assembler} {runner : Runner} {d : Descriptor}
    (h : (assemble assembler runner s).outcome = .ok d) :
    passwordSource assembler.timeout s = .ok (.given d.password) ∨
    ∃ call output, passwordSource assembler.timeout s = .ok (.helper call) ∧
      (assemble assembler runner s).calls = [call] ∧ (runner call).outcome = .ok output ∧
      d.password = .text (stripLineEnd output) := by
  cases course assembler runner s with
  | unresolved failure htarget hreport =>
    rw [hreport] at h
    cases h
  | unsourced target failure htarget hsource hreport =>
    rw [hreport] at h
    cases h
  | given target password htarget hsource hreport =>
    rw [hreport, complete_outcome] at h
    obtain ⟨certificate, -, -, -, rfl⟩ := describe_eq_ok.1 h
    exact .inl hsource
  | refused target call failure htarget hsource hreply hreport =>
    rw [hreport] at h
    cases h
  | supplied target call output htarget hsource hreply hreport =>
    rw [hreport, complete_outcome] at h
    obtain ⟨certificate, -, -, -, rfl⟩ := describe_eq_ok.1 h
    refine .inr ⟨call, output, hsource, ?_, hreply, rfl⟩
    rw [hreport, complete_calls]

theorem outcome_of_refused {assembler : Assembler} {runner : Runner} {call : HelperCall}
    {failure : Failure} (hcall : call ∈ (assemble assembler runner s).calls)
    (hreply : (runner call).outcome = .error failure) :
    (assemble assembler runner s).outcome = .error failure := by
  -- only the courses with a call have a helper that could be refused
  cases course assembler runner s with
  | unresolved failure htarget hreport => simp [hreport] at hcall
  | unsourced target failure htarget hsource hreport => simp [hreport] at hcall
  | given target password htarget hsource hreport => simp [hreport] at hcall
  | refused target called failure' htarget hsource hreply' hreport =>
    rw [hreport] at hcall ⊢
    obtain rfl := List.mem_singleton.1 hcall
    rw [hreply'] at hreply
    cases hreply
    rfl
  | supplied target called output htarget hsource hreply' hreport =>
    rw [hreport, complete_calls] at hcall
    obtain rfl := List.mem_singleton.1 hcall
    rw [hreply'] at hreply
    cases hreply

end Assembly

/-! ## Assembling -/

open Assembly in
/-- A helper is called at most once, exactly when declared settings await it, with the words of the
command line and the time of the assembler; its failure is what comes of the assembling.  The
password of a descriptor is the one that is given, or else empty if there is no command line, or
else what the helper printed without one line end.

Where a number of too many digits is to be written, there is no target to begin with. -/
theorem assemble_password (assembler : Assembler) (runner : Runner) {s : Settings}
    (hserves : assembler.allocator.Serves s) (hdeclared : s.areDeclared = true)
    (hwritten : s.port.hasOversized = false) :
    (assemble assembler runner s).calls.length ≤ 1 ∧
    ((assemble assembler runner s).calls ≠ [] ↔ s.AwaitsHelper) ∧
    (∀ call ∈ (assemble assembler runner s).calls,
      (∃ line, s.passwordCommand = .text line ∧
        Words.split line = .ok (call.command :: call.arguments)) ∧
      call.timeout = assembler.timeout ∧
      ∀ failure, (runner call).outcome = .error failure →
        (assemble assembler runner s).outcome = .error failure) ∧
    ∀ d, (assemble assembler runner s).outcome = .ok d →
      (s.password ≠ .null → d.password = s.password) ∧
      (s.password = .null → ¬ s.HasCommand → d.password = .text "") ∧
      (s.password = .null → s.HasCommand →
        ∃ call output t, (assemble assembler runner s).calls = [call] ∧
          (runner call).outcome = .ok output ∧ LineEndRemoved output t ∧ d.password = .text t) := by
  refine ⟨?_, ?_, ?_, ?_⟩
  · obtain ⟨call, -, -, hcalls⟩ | ⟨hcalls, -⟩ := calls_eq assembler runner s <;> simp [hcalls]
  · rw [awaitsHelper_iff hserves hdeclared hwritten]
    obtain ⟨call, htarget, hsource, hcalls⟩ | ⟨hcalls, hnone⟩ := calls_eq assembler runner s
    · simp [hcalls, htarget, hsource]
    · rw [hcalls]
      refine ⟨fun hne => absurd rfl hne, ?_⟩
      rintro ⟨⟨target, htarget⟩, call, hsource⟩
      exact absurd hsource (hnone target call htarget)
  · intro call hcall
    obtain ⟨-, line, command, arguments, hline, -, hsplit, rfl⟩ :=
      passwordSource_eq_helper.1 (passwordSource_of_mem_calls hcall)
    exact ⟨⟨line, hline, hsplit⟩, rfl, fun failure => outcome_of_refused hcall⟩
  · intro d hd
    obtain hsource | ⟨call, output, hsource, hcalls, hreply, hpassword⟩ := password_of_outcome hd
    -- a known password was given, or there is no command line; a printed one comes from the line
    · obtain ⟨hset, hpassword⟩ | ⟨hset, hpassword, hnone⟩ := password_of_given hdeclared hsource
      · exact ⟨fun _ => hpassword, fun hnull => absurd hnull hset, fun hnull => absurd hnull hset⟩
      · exact ⟨fun hne => absurd hset hne, fun _ _ => hpassword, fun _ hsome => absurd hsome hnone⟩
    · obtain ⟨hset, line, command, arguments, hline, hblank, -, -⟩ :=
        passwordSource_eq_helper.1 hsource
      refine ⟨fun hne => absurd hset hne, fun _ hnone => ?_, fun _ _ => ?_⟩
      · exact absurd ⟨line, hline, isBlankText_eq_false.1 hblank⟩ hnone
      · exact ⟨call, output, _, hcalls, hreply, stripLineEnd_eq_iff.1 rfl, hpassword⟩

/-- Settings that were never checked, of a server whose password a helper prints. -/
def uncheckedSettings : Settings where
  scheme := .postgres
  host := .text "db.internal"
  port := .int 5432
  database := .text "ledger"
  username := .text "clerk"
  password := .null
  passwordCommand := .text " pass 'db main' "
  databaseUsername := .text ""
  superuser := .null
  sslmode := .text "prefer"
  legacySslmode := .text "require"
  clientCertificate := .null
  rootCertificate := .null
  connectTimeout := .int (-7)
  maxConnections := .null
  expectedVersion := .text "16.2.0"
  jumphost := .null

/-- The helper of the settings is called with its words and prints the password. -/
theorem assemble_password_unchecked :
    (Tunnel.Allocator.ofWord 7).Serves uncheckedSettings ∧
    uncheckedSettings.areDeclared = true ∧ uncheckedSettings.port.hasOversized = false ∧
    (assemble ⟨.ofWord 7, .int 30, .text defaultApplicationName⟩
      (fun _ => ⟨.ok "secret\r\n", []⟩) uncheckedSettings).calls =
        [⟨"pass", ["db main"], .int 30⟩] ∧
    ∃ d, (assemble ⟨.ofWord 7, .int 30, .text defaultApplicationName⟩
        (fun _ => ⟨.ok "secret\r\n", []⟩) uncheckedSettings).outcome = .ok d ∧
      d.password = .text "secret" := by
  have hserves := Tunnel.Allocator.serves_ofWord 7 uncheckedSettings
  have hdeclared : uncheckedSettings.areDeclared = true := rfl
  have hwritten : uncheckedSettings.port.hasOversized = false :=
    Assembly.hasOversized_port (by decide) (by decide)
  obtain ⟨-, -, hcall, hpassword⟩ := assemble_password
    ⟨.ofWord 7, .int 30, .text defaultApplicationName⟩ (fun _ => ⟨.ok "secret\r\n", []⟩)
    hserves hdeclared hwritten
  obtain ⟨-, -, hprinted⟩ := hpassword _ rfl
  have hcommand : uncheckedSettings.HasCommand := ⟨_, rfl, 'p', by decide, by decide⟩
  obtain ⟨⟨command, arguments, timeout⟩, output, t, hcalls, hreply, hremoved, hd⟩ :=
    hprinted rfl hcommand
  obtain ⟨⟨line, hline, hsplit⟩, htime, -⟩ := hcall _ (by rw [hcalls]; exact .head _)
  cases hline
  cases hreply
  have hwords : Words.split " pass 'db main' " = .ok ["pass", "db main"] := rfl
  obtain ⟨rfl, rfl⟩ := List.cons.inj (Except.ok.inj (hsplit.symm.trans hwords))
  obtain rfl : timeout = .int 30 := htime
  refine ⟨hserves, hdeclared, hwritten, hcalls, _, rfl, ?_⟩
  rw [hd, ← Assembly.stripLineEnd_eq_iff.2 hremoved]
  rfl

end PostgresAccess
