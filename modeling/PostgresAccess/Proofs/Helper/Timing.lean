import PostgresAccess.Proofs.Helper.Scheduling

/-!
# Programs in time

Only the limit of its time stops a run to which no request to cancel comes (`stopTime_null`), and
what the program does before that is a schedule if it finishes in time (`isSchedule_natural`): then
the run is complete with what was written, and otherwise it is stopped at the limit or, without one,
never comes to its end (`phase_events_of_unfinished`).
-/

namespace PostgresAccess

/-! ## What comes before a stop -/

/-- The event of a piece of output. -/
def Write.event (w : Write) : HelperEvent := .wrote w.channel w.bytes

namespace Behaviour

open Execution

variable {b : Behaviour} {stop : Option (Nat × Stop)}

theorem stopTime_null (timeout : Value) :
    stopTime timeout .null = timeout.nanoseconds?.map fun n => (n.toNat, .expired) := by
  have hnone : Value.nanoseconds? .null = none := rfl
  simp only [stopTime, hnone, Option.map_none]
  cases timeout.nanoseconds? <;> rfl

theorem reason_of_stopTime {timeout : Value} {s : Nat × Stop}
    (h : stopTime timeout .null = some s) : s.2 = .expired := by
  rw [stopTime_null] at h
  obtain ⟨n, -, rfl⟩ := Option.map_eq_some_iff.1 h
  rfl

/-- What a program writes before its run is to stop. -/
def writesBefore (b : Behaviour) (stop : Option (Nat × Stop)) : List Write :=
  b.writes.filter fun w => isBefore stop w.time

/-- The pieces that a program writes on a stream before its run is to stop. -/
def pieces (b : Behaviour) (stop : Option (Nat × Stop)) (channel : Channel) : List (List UInt8) :=
  ((b.writesBefore stop).filter fun w => w.channel = channel).map (·.bytes)

/-- A program finishes before its run is to stop: it exits with a code, and its streams end. -/
def FinishesWith (b : Behaviour) (stop : Option (Nat × Stop)) (code : Int) : Prop :=
  (∃ time, b.exit = some (time, code) ∧ isBefore stop time = true) ∧
    ∃ time, b.closed = some time ∧ isBefore stop time = true

theorem natural_of_finishesWith {code : Int} (h : b.FinishesWith stop code) :
    b.natural stop = (b.writesBefore stop).map Write.event ++
      [.exited code, .closed .stdout, .closed .stderr] := by
  obtain ⟨⟨exit, hexit, hexitTime⟩, closed, hclosed, hclosedTime⟩ := h
  have hfound : b.exit.filter (fun e => isBefore stop e.1) = some (exit, code) :=
    Option.filter_eq_some_iff.2 ⟨hexit, hexitTime⟩
  have hended : b.closed.any (isBefore stop) = true := by
    rw [hclosed]
    exact hclosedTime
  rw [natural, hfound, if_pos hended, List.append_assoc]
  rfl

theorem isFinished_natural :
    IsFinished (b.natural stop) ↔ ∃ code, b.FinishesWith stop code := by
  constructor
  · rintro ⟨hout, -, code, hexit⟩
    refine ⟨code, ?_, ?_⟩
    · simpa [natural, Option.filter_eq_some_iff] using hexit
    · simpa [natural, Option.any_eq_true] using hout
  · rintro ⟨code, h⟩
    rw [natural_of_finishesWith h]
    exact ⟨by simp, by simp, code, by simp⟩

theorem stop_not_mem_natural (reason : Stop) : .stop reason ∉ b.natural stop := by
  simp [natural]

theorem filter_map_event (channel : Channel) (writes : List Write) :
    (writes.map Write.event).filter (·.isOf channel) =
      ((writes.filter fun w => w.channel = channel).map (·.bytes)).map (.wrote channel) := by
  induction writes with
  | nil => rfl
  | cons w writes ih =>
    have hw : w.event.isOf channel = decide (w.channel = channel) := rfl
    rw [List.map_cons, List.filter_cons, List.filter_cons, hw, ih]
    by_cases hchannel : w.channel = channel
    · simp [hchannel, Write.event]
    · simp [hchannel]

theorem isSchedule_natural {code : Int} (h : b.FinishesWith stop code) :
    IsSchedule (b.pieces stop .stdout) (b.pieces stop .stderr) code (b.natural stop) := by
  have hwrites : ((b.writesBefore stop).map Write.event).filter (·.isExit) = [] := by
    simp [Write.event, HelperEvent.isExit]
  refine ⟨?_, ?_, ?_, stop_not_mem_natural⟩
  · rw [natural_of_finishesWith h, List.filter_append, filter_map_event]
    rfl
  · rw [natural_of_finishesWith h, List.filter_append, filter_map_event]
    rfl
  · rw [natural_of_finishesWith h, List.filter_append, hwrites]
    rfl

/-! ## The end of a run in time -/

/-- The run of a program that finishes in time is complete. -/
theorem run_events_of_finishesWith {code : Int} (h : b.FinishesWith stop code) :
    run (b.events stop) = ⟨(b.pieces stop .stdout).flatten, (b.pieces stop .stderr).flatten,
      true, true, some code, .complete⟩ := by
  have hrun := (isSchedule_natural h).run_eq
  have hover : (run (b.natural stop)).phase.isOver = true := by
    rw [hrun]
    rfl
  unfold events
  rw [run_append_of_isOver hover, hrun]

/-- A run that was to stop while something was awaited waits for the exit of its program, if that is
awaited, and is stopped then. -/
theorem phase_of_killed {events : List HelperEvent} (hstop : ∀ reason, .stop reason ∉ events)
    (h : ¬ IsFinished events) (reason : Stop) :
    (run (events ++ [.stop reason, .exited killedCode])).phase = .stopped reason := by
  rw [run_append, run_of_unfinished hstop h]
  have hfirst : (gathered events).step (.stop reason) = (gathered events).interrupt reason := rfl
  rw [List.foldl_cons, List.foldl_cons, List.foldl_nil, hfirst]
  -- a program that had exited by itself is not awaited again
  cases hcode : (gathered events).exitCode <;> simp [interrupt, hcode, step]

/-- The run of a program that does not finish in time is stopped, or never comes to its end if
nothing stops it. -/
theorem phase_events_of_unfinished (h : ∀ code, ¬ b.FinishesWith stop code) :
    (run (b.events stop)).phase = stop.elim .collecting fun s => .stopped s.2 := by
  have hunfinished : ¬ IsFinished (b.natural stop) := fun hfinished =>
    (isFinished_natural.1 hfinished).elim h
  cases stop with
  | none =>
    have hevents : b.events none = b.natural none := List.append_nil _
    rw [hevents, run_of_unfinished stop_not_mem_natural hunfinished]
    rfl
  | some s => exact phase_of_killed stop_not_mem_natural hunfinished s.2

end Behaviour

end PostgresAccess
