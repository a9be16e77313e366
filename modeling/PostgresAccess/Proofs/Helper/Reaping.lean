import PostgresAccess.Proofs.Helper.Scheduling

/-!
# Which runs end before their program does

A run that is to stop kills its program and waits for the exit.  `stage_run` says by one event after
another how far a run is: it collects output, it waits for a program that was killed, it is over and
the program has exited, or it was abandoned.  The last comes of a request to cancel that finds the
run waiting (`IsAbandoned`); in all other runs the exit is known at the end (`reaped_iff`).
-/

namespace PostgresAccess.Execution

open Text (Charset)

variable {events : List HelperEvent} {e : HelperEvent}

/-! ## Runs that wait for an exit -/

/-- The run was to stop before the exit of its program, which has not come since. -/
def IsWaiting (events : List HelperEvent) : Prop :=
  ∃ begun reason since, events = begun ++ .stop reason :: since ∧
    (∀ reason, .stop reason ∉ begun) ∧ .stop .cancelled ∉ since ∧ ∀ code, .exited code ∉ events

/-- A request to cancel came while the run waited for the exit of its program. -/
def IsAbandoned (events : List HelperEvent) : Prop :=
  ∃ waited later, events = waited ++ .stop .cancelled :: later ∧ IsWaiting waited

theorem IsAbandoned.append (h : IsAbandoned events) (later : List HelperEvent) :
    IsAbandoned (events ++ later) := by
  obtain ⟨waited, since, rfl, hwaiting⟩ := h
  exact ⟨waited, since ++ later, by simp, hwaiting⟩

theorem IsWaiting.append_singleton (h : IsWaiting events) (hexit : ∀ code, e ≠ .exited code)
    (hcancel : e ≠ .stop .cancelled) : IsWaiting (events ++ [e]) := by
  obtain ⟨begun, reason, since, rfl, hbegun, hsince, hnone⟩ := h
  refine ⟨begun, reason, since ++ [e], by simp, hbegun, ?_, fun code => ?_⟩
  · simpa [hsince] using hcancel.symm
  · have hlast := (hexit code).symm
    have hall := hnone code
    simp only [List.mem_append, List.mem_singleton, not_or]
    exact ⟨by simpa using hall, hlast⟩

theorem step_of_reaping {x : Execution} {reason : Stop} (hphase : x.phase = .reaping reason)
    (hexit : ∀ code, e ≠ .exited code) (hcancel : e ≠ .stop .cancelled) : x.step e = x := by
  cases e with
  | wrote _ _ | closed _ => simp only [step, hphase]
  | exited code => exact absurd rfl (hexit code)
  | stop reason =>
    cases reason with
    | expired => simp only [step, hphase]
    | cancelled => exact absurd rfl hcancel

/-! ## The course of a run -/

/-- What a run knows that collects output: it was not to stop so far, and it knows the exit code if
its program has exited. -/
structure Collects (events : List HelperEvent) (x : Execution) : Prop where
  unstopped : ∀ reason, .stop reason ∉ events
  exited : ∀ code, x.exitCode = some code → .exited code ∈ events
  running : x.exitCode = none → ∀ code, .exited code ∉ events

/-- How far a run is after some events. -/
inductive Stage (events : List HelperEvent) (x : Execution) : Prop
  | collecting (hphase : x.phase = .collecting) (hcollects : Collects events x)
  | waiting {reason : Stop} (hphase : x.phase = .reaping reason) (hwaiting : IsWaiting events)
    (hcode : x.exitCode = none)
  | reaped {code : Int} (hover : x.phase.isOver = true) (hcode : x.exitCode = some code)
    (hmem : .exited code ∈ events)
  | abandoned (hphase : x.phase = .stopped .cancelled) (hcode : x.exitCode = none)
    (habandoned : IsAbandoned events)

section Stage

variable {x : Execution}

/-- An event that is neither the exit nor a stop changes nothing of what is known. -/
theorem Collects.append_singleton {y : Execution} (h : Collects events x)
    (hcode : y.exitCode = x.exitCode) (hexit : ∀ code, e ≠ .exited code)
    (hstop : ∀ reason, e ≠ .stop reason) : Collects (events ++ [e]) y where
  unstopped reason := by
    simpa [h.unstopped reason] using (hstop reason).symm
  exited code hy := List.mem_append_left _ (h.exited code (hcode ▸ hy))
  running hy code := by
    simpa [h.running (hcode ▸ hy) code] using (hexit code).symm

theorem Collects.settle (h : Collects events x) (hphase : x.phase = .collecting) :
    Stage events x.settle := by
  unfold Execution.settle
  split
  · rename_i hall
    obtain ⟨-, hexit⟩ := Bool.and_eq_true_iff.1 hall
    obtain ⟨code, hx⟩ := Option.isSome_iff_exists.1 hexit
    exact .reaped rfl hx (h.exited code hx)
  · exact .collecting hphase h

theorem Collects.interrupt (h : Collects events x) (reason : Stop) :
    Stage (events ++ [.stop reason]) (x.interrupt reason) := by
  cases hx : x.exitCode with
  | some code =>
    have hover : (x.interrupt reason).phase.isOver = true := by
      simp [Execution.interrupt, hx, Phase.isOver]
    exact .reaped hover hx (List.mem_append_left _ (h.exited code hx))
  | none =>
    have hphase : (x.interrupt reason).phase = .reaping reason := by
      simp [Execution.interrupt, hx]
    have hwaiting : IsWaiting (events ++ [.stop reason]) :=
      ⟨events, reason, [], rfl, h.unstopped, by simp, fun code => by simp [h.running hx code]⟩
    exact .waiting hphase hwaiting hx

theorem Collects.step (h : Collects events x) (hphase : x.phase = .collecting) (e : HelperEvent) :
    Stage (events ++ [e]) (x.step e) := by
  cases e with
  | wrote channel bytes =>
    have hstep : x.step (.wrote channel bytes) = x.append bytes channel := by
      simp only [Execution.step, hphase]
    rw [hstep]
    cases channel <;> exact .collecting hphase (h.append_singleton rfl (by simp) (by simp))
  | closed channel =>
    have hstep : x.step (.closed channel) = (x.close channel).settle := by
      simp only [Execution.step, hphase]
    have hsame : Collects (events ++ [.closed channel]) (x.close channel) := by
      cases channel <;> exact h.append_singleton rfl (by simp) (by simp)
    rw [hstep]
    cases channel <;> exact hsame.settle hphase
  | exited code =>
    have hstep : x.step (.exited code) = { x with exitCode := some code }.settle := by
      simp only [Execution.step, hphase]
    have hknown : Collects (events ++ [.exited code]) { x with exitCode := some code } := by
      refine ⟨by simpa using h.unstopped, fun other hother => ?_, fun hnever => ?_⟩
      · cases hother
        simp
      · cases hnever
    rw [hstep]
    exact hknown.settle hphase
  | stop reason =>
    have hstep : x.step (.stop reason) = x.interrupt reason := by
      simp only [Execution.step, hphase]
    rw [hstep]
    exact h.interrupt reason

theorem IsWaiting.step {reason : Stop} (h : IsWaiting events) (hphase : x.phase = .reaping reason)
    (hcode : x.exitCode = none) (e : HelperEvent) : Stage (events ++ [e]) (x.step e) := by
  -- a run that waits reacts to a request to cancel and to the exit, and to nothing else
  by_cases hcancel : e = .stop .cancelled
  · subst hcancel
    have hstep : x.step (.stop .cancelled) = { x with phase := .stopped .cancelled } := by
      simp only [Execution.step, hphase]
    rw [hstep]
    exact .abandoned rfl hcode ⟨events, [], rfl, h⟩
  · by_cases hexit : ∃ code, e = .exited code
    · obtain ⟨code, rfl⟩ := hexit
      have hstep : x.step (.exited code) =
          { x with exitCode := some code, phase := .stopped reason } := by
        simp only [Execution.step, hphase]
      rw [hstep]
      exact .reaped rfl rfl (by simp)
    · rw [not_exists] at hexit
      rw [step_of_reaping hphase hexit hcancel]
      exact .waiting hphase (h.append_singleton hexit hcancel) hcode

/-- A step leads from each stage of a run to the next or keeps it. -/
theorem Stage.step (h : Stage events x) (e : HelperEvent) :
    Stage (events ++ [e]) (x.step e) := by
  cases h with
  | collecting hphase hcollects => exact hcollects.step hphase e
  | waiting hphase hwaiting hcode => exact hwaiting.step hphase hcode e
  | reaped hover hcode hmem =>
    rw [step_of_isOver hover]
    exact .reaped hover hcode (List.mem_append_left _ hmem)
  | abandoned hphase hcode habandoned =>
    have hover : x.phase.isOver = true := by
      rw [hphase]
      rfl
    rw [step_of_isOver hover]
    exact .abandoned hphase hcode (habandoned.append _)

end Stage

theorem stage_run (events : List HelperEvent) : Stage events (run events) := by
  induction events using List.reverseRecOn with
  | nil => exact .collecting rfl ⟨by simp, by simp [run, start], by simp⟩
  | append_singleton events e ih =>
    rw [run_append_singleton]
    exact ih.step e

/-! ## Abandoned runs -/

theorem foldl_step_of_reaping {x : Execution} {reason : Stop} (hphase : x.phase = .reaping reason)
    (hexit : ∀ code, .exited code ∉ events) (hcancel : .stop .cancelled ∉ events) :
    events.foldl step x = x := by
  induction events with
  | nil => rfl
  | cons e events ih =>
    have hfirst : x.step e = x := by
      refine step_of_reaping hphase (fun code heq => ?_) fun heq => ?_
      · exact hexit code (heq ▸ List.mem_cons_self)
      · exact hcancel (heq ▸ List.mem_cons_self)
    rw [List.foldl_cons, hfirst]
    exact ih (fun code hmem => hexit code (List.mem_cons_of_mem _ hmem)) fun hmem =>
      hcancel (List.mem_cons_of_mem _ hmem)

/-- A run that was to stop before the exit of its program waits for that. -/
theorem run_of_isWaiting (h : IsWaiting events) :
    ∃ reason, (run events).phase = .reaping reason ∧ (run events).exitCode = none := by
  obtain ⟨begun, reason, since, rfl, hstop, hcancel, hexit⟩ := h
  have hbegun : ∀ code, .exited code ∉ begun := fun code hmem =>
    hexit code (List.mem_append_left _ hmem)
  have hsince : ∀ code, .exited code ∉ since := fun code hmem =>
    hexit code (List.mem_append_right _ (List.mem_cons_of_mem _ hmem))
  -- before the stop the exit is not known, so the stop has to wait for it
  have hunfinished : ¬ IsFinished begun := fun ⟨_, _, code, hmem⟩ => hbegun code hmem
  have hnone : (gathered begun).exitCode = none := by
    rw [← Option.not_isSome_iff_eq_none, isSome_exitCode_gathered]
    exact fun ⟨code, hmem⟩ => hbegun code hmem
  have hstopped : (gathered begun).step (.stop reason) =
      { gathered begun with phase := .reaping reason } := by
    have hstep : (gathered begun).step (.stop reason) = (gathered begun).interrupt reason := rfl
    rw [hstep]
    simp [interrupt, hnone]
  have hrun : run (begun ++ .stop reason :: since) =
      { gathered begun with phase := .reaping reason } := by
    rw [run_append, run_of_unfinished hstop hunfinished, List.foldl_cons, hstopped]
    exact foldl_step_of_reaping rfl hsince hcancel
  rw [hrun]
  exact ⟨reason, rfl, hnone⟩

/-- An abandoned run ends as cancelled, and the exit of its program is never known. -/
theorem run_of_isAbandoned (h : IsAbandoned events) :
    (run events).phase = .stopped .cancelled ∧ (run events).exitCode = none := by
  obtain ⟨waited, later, rfl, hwaiting⟩ := h
  obtain ⟨reason, hphase, hcode⟩ := run_of_isWaiting hwaiting
  have hstep : (run waited).step (.stop .cancelled) =
      { run waited with phase := .stopped .cancelled } := by
    simp only [step, hphase]
  have hover : (run (waited ++ [.stop .cancelled])).phase.isOver = true := by
    rw [run_append_singleton, hstep]
    rfl
  have hrun : run (waited ++ .stop .cancelled :: later) =
      { run waited with phase := .stopped .cancelled } := by
    rw [List.append_cons, run_append_of_isOver hover, run_append_singleton, hstep]
  rw [hrun]
  exact ⟨rfl, hcode⟩

/-! ## The end of a run -/

/-- When a run has an outcome, its program has exited and the exit code is known, unless a request
to cancel found the run waiting for that; then it is cancelled and the exit is not known. -/
theorem reaped_iff {charset : Charset} {call : HelperCall} {result : Except Failure String}
    (h : (run events).outcome? charset call = some result) :
    ((∃ code, (run events).exitCode = some code ∧ .exited code ∈ events) ↔ ¬ IsAbandoned events) ∧
      (IsAbandoned events → result = .error .cancelled) := by
  have hover : (run events).phase.isOver = true := by
    rw [← isSome_outcome? _ charset call, h]
    rfl
  constructor
  -- a run that has an outcome is over, in one of two stages
  · cases stage_run events with
    | collecting hphase | waiting hphase => simp [hphase, Phase.isOver] at hover
    | @reaped code _ hcode hmem =>
      refine iff_of_true ⟨code, hcode, hmem⟩ fun habandoned => ?_
      rw [(run_of_isAbandoned habandoned).2] at hcode
      cases hcode
    | abandoned _ hcode habandoned =>
      refine iff_of_false ?_ (not_not_intro habandoned)
      rintro ⟨code, hknown, -⟩
      rw [hcode] at hknown
      cases hknown
  · intro habandoned
    have houtcome : (run events).outcome? charset call = some (.error .cancelled) := by
      simp only [outcome?, (run_of_isAbandoned habandoned).1]
    exact Option.some.inj (h.symm.trans houtcome)

/-- A program that was killed because its time was over. -/
theorem reaped_iff_expired :
    (run [.stop .expired, .exited killedCode]).outcome? .utf8 printCall =
        some (.error (.helper ⟨"print", [], "", "", some killedCode, .timedOut "None"⟩)) ∧
      ¬ IsAbandoned [.stop .expired, .exited killedCode] := by
  have houtcome : (run [.stop .expired, .exited killedCode]).outcome? .utf8 printCall =
      some (.error (.helper ⟨"print", [], "", "", some killedCode, .timedOut "None"⟩)) := rfl
  exact ⟨houtcome, (reaped_iff houtcome).1.1 ⟨killedCode, rfl, by simp⟩⟩

/-- Two requests to cancel leave a program that is not awaited. -/
theorem not_always_reaped :
    ¬ ∀ events charset call result, (run events).outcome? charset call = some result →
      ∃ code, (run events).exitCode = some code := by
  intro h
  obtain ⟨code, hcode⟩ := h [.stop .cancelled, .stop .cancelled] .utf8 printCall _ rfl
  cases hcode

end PostgresAccess.Execution
