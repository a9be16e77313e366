import PostgresAccess.Proofs.Assembly.Soundness
import PostgresAccess.Proofs.Helper.Timing

/-!
# Which failures of a call are reported as such

A call is to end with what its program printed or with a failure that names the command and its
arguments (`Reported`).  The stages of a call are taken one by one: the start, the limit, the run,
the exit and the reading of the output.  All failures of the system at the start are reported, but
before the system is asked a text is refused that holds the null character (`HelperCall.HasNull`),
and this failure gets out as it is; so does the refusal of a limit that cannot be measured.  Nothing
else but an endless run keeps a call from being reported (`reported_iff`).
-/

namespace PostgresAccess

open Text (Charset)

/-! ## What is reported -/

/-- What a call is to come to, given what became of its start: the text that a program printed which
exited with zero before the run was to stop, or a failure that names the command and its
arguments. -/
inductive Reported (call : HelperCall) (charset : Charset) (started : Except StartFault Behaviour) :
    Except Failure String → Prop
  | output {b : Behaviour} {text : String} (hstarted : started = .ok b)
    (hfinishes : b.FinishesWith (Behaviour.stopTime call.timeout .null) 0)
    (htext : charset.decode?
      (b.pieces (Behaviour.stopTime call.timeout .null) .stdout).flatten = some text) :
    Reported call charset started (.ok text)
  | failure (f : HelperFailure) (hcommand : f.command = call.command)
    (harguments : f.arguments = call.arguments) : Reported call charset started (.error (.helper f))

/-- A run comes to its end: it is to stop at some time, or its program finishes. -/
def Behaviour.Ends (b : Behaviour) (stop : Option (Nat × Stop)) : Prop :=
  stop = none → ∃ code, b.FinishesWith none code

section Run

variable {call : HelperCall} {charset : Charset} {b : Behaviour}

/-- A complete run gives the text of its output, if the program exited with zero, or a failure of
its call. -/
theorem Execution.completed_cases (x : Execution) (charset : Charset) (call : HelperCall) :
    (∃ text, x.exitCode = some 0 ∧ charset.decode? x.stdout = some text ∧
      x.completed charset call = .ok text) ∨
    ∃ f : HelperFailure, f.command = call.command ∧ f.arguments = call.arguments ∧
      x.completed charset call = .error (.helper f) := by
  unfold Execution.completed
  split
  · rename_i hcode
    split
    · rename_i text htext
      exact .inl ⟨text, hcode, htext, rfl⟩
    · exact .inr ⟨_, rfl, rfl, rfl⟩
  · exact .inr ⟨_, rfl, rfl, rfl⟩

theorem reported_of_ends (charset : Charset) (h : b.Ends (Behaviour.stopTime call.timeout .null)) :
    ∃ result, (Execution.run (b.events (Behaviour.stopTime call.timeout .null))).outcome?
      charset call = some result ∧ Reported call charset (.ok b) result := by
  -- a run that does not finish in time can only come to its end by being stopped
  by_cases hfinishes : ∃ code, b.FinishesWith (Behaviour.stopTime call.timeout .null) code
  · obtain ⟨code, hfinishes⟩ := hfinishes
    rw [Behaviour.run_events_of_finishesWith hfinishes]
    refine ⟨_, rfl, ?_⟩
    rcases Execution.completed_cases _ charset call with
      ⟨text, hcode, htext, houtcome⟩ | ⟨f, hcommand, harguments, houtcome⟩
    · rw [houtcome]
      cases hcode
      exact .output rfl hfinishes htext
    · rw [houtcome]
      exact .failure f hcommand harguments
  · rw [not_exists] at hfinishes
    have hphase := Behaviour.phase_events_of_unfinished hfinishes
    cases hstop : Behaviour.stopTime call.timeout .null with
    | none =>
      -- without a limit, only a program that finishes ends its run
      obtain ⟨code, hcode⟩ := h hstop
      rw [hstop] at hfinishes
      exact absurd hcode (hfinishes code)
    | some s =>
      rw [hstop, Option.elim_some, Behaviour.reason_of_stopTime hstop] at hphase
      simp only [Execution.outcome?, hphase]
      exact ⟨_, rfl, .failure _ rfl rfl⟩

theorem outcome?_of_not_ends {stop : Option (Nat × Stop)} (h : ¬ b.Ends stop) :
    (Execution.run (b.events stop)).outcome? charset call = none := by
  obtain ⟨rfl, hfinishes⟩ := Classical.not_imp.1 h
  have hphase := Behaviour.phase_events_of_unfinished (not_exists.1 hfinishes)
  rw [Option.elim_none] at hphase
  simp only [Execution.outcome?, hphase]

end Run

/-! ## Which calls are reported -/

namespace HelperCall

variable {call : HelperCall} {charset : Charset} {b : Behaviour}

/-- What comes of a program that was started: its limit is refused, or its run never comes to its
end, or the call is reported. -/
theorem outcome?_cases (call : HelperCall) (charset : Charset) (b : Behaviour) :
    (¬ call.timeout.IsLimit ∧
      ∃ failure, (failure = .immeasurable ∨ ∃ fault, failure = .value fault) ∧
        call.outcome? charset .null (.ok b) = some (.error failure)) ∨
    (¬ b.Ends (Behaviour.stopTime call.timeout .null) ∧
      call.outcome? charset .null (.ok b) = none) ∨
    (call.timeout.IsLimit ∧ b.Ends (Behaviour.stopTime call.timeout .null) ∧
      ∃ result, call.outcome? charset .null (.ok b) = some result ∧
        Reported call charset (.ok b) result) := by
  have houtcome : call.outcome? charset .null (.ok b) =
      call.awaited? charset (b.events (Behaviour.stopTime call.timeout .null)) := rfl
  rw [houtcome]
  by_cases hlimit : call.timeout.IsLimit
  · rw [call.awaited?_of_isLimit hlimit]
    refine .inr ?_
    by_cases hends : b.Ends (Behaviour.stopTime call.timeout .null)
    · exact .inr ⟨hlimit, hends, reported_of_ends charset hends⟩
    · exact .inl ⟨hends, outcome?_of_not_ends hends⟩
  · obtain ⟨failure, hfailure, hrefused⟩ := call.awaited?_of_not_isLimit hlimit
    exact .inl ⟨hlimit, failure, hfailure, hrefused charset _⟩

/-- Without a request to cancel, a call ends with the failure for a null character exactly if one of
its texts holds one, whatever the system does.  All other calls are reported, except that a limit
that cannot be measured is refused after the start and that a run may be endless. -/
theorem reported_iff (system : System) (call : HelperCall) (charset : Charset) :
    (call.outcome? charset .null (call.started system) = some (.error .embeddedNull) ↔
      call.HasNull) ∧
    ((∃ result, call.outcome? charset .null (call.started system) = some result ∧
        Reported call charset (call.started system) result) ↔
      ¬ call.HasNull ∧ ∀ b, system call = .ok b →
        call.timeout.IsLimit ∧ b.Ends (Behaviour.stopTime call.timeout .null)) := by
  by_cases hnull : call.HasNull
  · have houtcome : call.outcome? charset .null (call.started system) =
        some (.error .embeddedNull) := by
      rw [started, if_pos hnull]
      rfl
    rw [houtcome]
    refine ⟨iff_of_true rfl hnull, iff_of_false ?_ fun h => h.1 hnull⟩
    rintro ⟨_, ⟨⟩, ⟨⟩⟩
  · cases hstart : system call with
    | error fault =>
      have hstarted : call.started system = .error (.file fault) := by
        rw [started, if_neg hnull, hstart]
        rfl
      rw [hstarted]
      have hreported : Reported call charset (.error (.file fault))
          (.error (StartFault.failure (.file fault) call)) := .failure _ rfl rfl
      exact ⟨iff_of_false nofun hnull, iff_of_true ⟨_, rfl, hreported⟩ ⟨hnull, nofun⟩⟩
    | ok b =>
      have hstarted : call.started system = .ok b := by
        rw [started, if_neg hnull, hstart]
        rfl
      rw [hstarted]
      -- of a program that was started, no outcome is the failure for a null character
      simp only [Except.ok.injEq, forall_eq', hnull, not_false_eq_true, true_and, iff_false]
      rcases outcome?_cases call charset b with
        ⟨hlimit, failure, hfailure, houtcome⟩ | ⟨hends, houtcome⟩ | ⟨hlimit, hends, result,
          houtcome, hreported⟩
      · rw [houtcome]
        refine ⟨?_, iff_of_false ?_ fun h => hlimit h.1⟩
        · obtain rfl | ⟨fault, rfl⟩ := hfailure <;> nofun
        · rintro ⟨_, ⟨⟩, hreported⟩
          obtain rfl | ⟨fault, rfl⟩ := hfailure <;> cases hreported
      · rw [houtcome]
        exact ⟨nofun, iff_of_false nofun fun h => hends h.2⟩
      · rw [houtcome]
        refine ⟨fun hfault => ?_, iff_of_true ⟨result, rfl, hreported⟩ ⟨hlimit, hends⟩⟩
        cases hfault
        cases hreported

/-- A document whose command line holds a null character. -/
def nullDocument : Value :=
  .table [("host", .text "db.internal"), ("password_command", .text "pass\x00 show")]

/-- The null character of a command, or of an argument, is not reported.  A document may name such a
helper: its settings are valid, and assembling them fails with what is not reported, whatever the
system does. -/
theorem not_always_reported :
    (∀ system : System, ¬ ∀ call result,
      call.outcome? .utf8 .null (call.started system) = some result →
        Reported call .utf8 (call.started system) result) ∧
    ∃ s, Settings.parse .empty "<mapping>" nullDocument = .ok s ∧
      ∀ system : System,
        (assemble ⟨.ofWord 7, .null, .text defaultApplicationName⟩ system.runner s).outcome =
          .error .embeddedNull := by
  constructor
  · intro system h
    have hcall := h ⟨"sh\x00", [], .null⟩ (.error .embeddedNull) rfl
    cases hcall
  · exact ⟨_, rfl, fun _ => rfl⟩

end HelperCall

end PostgresAccess
