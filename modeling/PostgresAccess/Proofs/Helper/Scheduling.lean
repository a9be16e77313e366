import PostgresAccess.Proofs.Helper.Limits
import PostgresAccess.Proofs.Result
import PostgresAccess.Proofs.Text.Replacement

/-!
# The order of events does not matter

A program that is not stopped writes on two streams, ends both, and exits.  `IsSchedule` holds of
every order in which this may reach the run: the pieces of each stream come one after another and
before its end, and nothing else is fixed.  As long as something is awaited, the run has gathered
what the events have brought so far (`run_of_unfinished`, by one event after another); the last of
the three endings completes it.

So the outcome is that of the bytes of both streams and of the exit code
(`exists_outcome_of_schedules`), however the bytes are cut into pieces.  `Results` says which
outcome it is: what a text is that is read strictly, or with faults replaced, is said by the bytes
of characters alone (`Text.Utf8.encode`, `Text.Utf8.Replaces`).
-/

namespace PostgresAccess

open Text (Charset)

namespace HelperEvent

/-- Whether an event belongs to a stream. -/
def isOf (channel : Channel) : HelperEvent → Bool
  | .wrote other _ | .closed other => other = channel
  | .exited _ | .stop _ => false

/-- Whether an event is the exit of the program. -/
def isExit : HelperEvent → Bool
  | .exited _ => true
  | _ => false

/-- The bytes that an event adds to a stream. -/
def bytesOn (channel : Channel) : HelperEvent → List UInt8
  | .wrote other bytes => if other = channel then bytes else []
  | _ => []

/-- The exit code that an event brings. -/
def exitCode? : HelperEvent → Option Int
  | .exited code => some code
  | _ => none

end HelperEvent

/-- Whether nothing is awaited any more. -/
def Phase.isOver : Phase → Bool
  | .complete | .stopped _ => true
  | .collecting | .reaping _ => false

namespace Execution

/-! ## The end of a run -/

theorem run_append (events later : List HelperEvent) :
    run (events ++ later) = later.foldl step (run events) :=
  List.foldl_append

theorem run_append_singleton (events : List HelperEvent) (e : HelperEvent) :
    run (events ++ [e]) = (run events).step e := by
  rw [run_append]
  rfl

theorem isSome_outcome? (x : Execution) (charset : Charset) (call : HelperCall) :
    (x.outcome? charset call).isSome = x.phase.isOver := by
  obtain ⟨-, -, -, -, -, phase⟩ := x
  cases phase with
  | stopped reason => cases reason <;> rfl
  | collecting | reaping _ | complete => rfl

/-- Nothing happens any more to a run that is over. -/
theorem step_of_isOver {x : Execution} (h : x.phase.isOver = true) (e : HelperEvent) :
    x.step e = x := by
  unfold step
  cases hphase : x.phase with
  | collecting | reaping _ => simp [hphase, Phase.isOver] at h
  | complete | stopped _ => rfl

theorem run_append_of_isOver {events : List HelperEvent} (h : (run events).phase.isOver = true)
    (later : List HelperEvent) : run (events ++ later) = run events := by
  rw [run_append]
  induction later with
  | nil => rfl
  | cons e later ih => rw [List.foldl_cons, step_of_isOver h, ih]

/-! ## What is gathered -/

section Gathered

variable {events : List HelperEvent} {e : HelperEvent}

/-- A run that has gathered what some events bring, and awaits more. -/
def gathered (events : List HelperEvent) : Execution where
  stdout := events.flatMap (·.bytesOn .stdout)
  stderr := events.flatMap (·.bytesOn .stderr)
  stdoutClosed := decide (.closed .stdout ∈ events)
  stderrClosed := decide (.closed .stderr ∈ events)
  exitCode := events.reverse.findSome? HelperEvent.exitCode?
  phase := .collecting

/-- Both streams have ended and the program has exited. -/
def IsFinished (events : List HelperEvent) : Prop :=
  .closed .stdout ∈ events ∧ .closed .stderr ∈ events ∧ ∃ code, .exited code ∈ events

theorem isSome_exitCode_gathered :
    (gathered events).exitCode.isSome = true ↔ ∃ code, .exited code ∈ events := by
  simp only [gathered, List.findSome?_isSome_iff, List.mem_reverse]
  constructor
  · rintro ⟨e, he, hcode⟩
    cases e <;> first | exact ⟨_, he⟩ | cases hcode
  · rintro ⟨code, hcode⟩
    exact ⟨_, hcode, rfl⟩

theorem settle_gathered_of_finished (h : IsFinished events) :
    (gathered events).settle = { gathered events with phase := .complete } := by
  obtain ⟨hout, herr, hexit⟩ := h
  refine if_pos ?_
  rw [Bool.and_eq_true, isSome_exitCode_gathered]
  exact ⟨by simp [gathered, hout, herr], hexit⟩

theorem settle_gathered_of_unfinished (h : ¬ IsFinished events) :
    (gathered events).settle = gathered events := by
  refine if_neg fun hsettles => h ?_
  rw [Bool.and_eq_true, Bool.and_eq_true, isSome_exitCode_gathered] at hsettles
  obtain ⟨⟨hout, herr⟩, hexit⟩ := hsettles
  exact ⟨of_decide_eq_true hout, of_decide_eq_true herr, hexit⟩

/-- One more event adds what it brings, and completes the run if nothing is awaited then. -/
theorem step_gathered (h : ¬ IsFinished events) (hstop : ∀ reason, e ≠ .stop reason) :
    (gathered events).step e = (gathered (events ++ [e])).settle := by
  cases e with
  | wrote channel bytes =>
    have hsame : ¬ IsFinished (events ++ [.wrote channel bytes]) := by
      simpa [IsFinished] using h
    rw [settle_gathered_of_unfinished hsame]
    cases channel <;>
      simp [gathered, step, append, HelperEvent.bytesOn, HelperEvent.exitCode?,
        List.findSome?_cons]
  | closed channel =>
    refine congrArg settle ?_
    cases channel <;>
      simp [gathered, close, HelperEvent.bytesOn, HelperEvent.exitCode?, List.findSome?_cons]
  | exited code =>
    refine congrArg settle ?_
    simp [gathered, HelperEvent.bytesOn, HelperEvent.exitCode?, List.findSome?_cons]
  | stop reason => exact absurd rfl (hstop reason)

theorem IsFinished.append (h : IsFinished events) (later : List HelperEvent) :
    IsFinished (events ++ later) := by
  obtain ⟨hout, herr, code, hexit⟩ := h
  exact ⟨List.mem_append_left _ hout, List.mem_append_left _ herr, code,
    List.mem_append_left _ hexit⟩

/-- A run of which something is awaited has gathered what its events have brought. -/
theorem run_of_unfinished (hstop : ∀ reason, .stop reason ∉ events) (h : ¬ IsFinished events) :
    run events = gathered events := by
  induction events using List.reverseRecOn with
  | nil => rfl
  | append_singleton events e ih =>
    have hbefore : ¬ IsFinished events := fun hfinished => h (hfinished.append _)
    have hstopBefore : ∀ reason, .stop reason ∉ events := fun reason hmem =>
      hstop reason (List.mem_append_left _ hmem)
    have hlast : ∀ reason, e ≠ .stop reason := by
      rintro reason rfl
      exact hstop reason (by simp)
    rw [run_append_singleton, ih hstopBefore hbefore, step_gathered hbefore hlast,
      settle_gathered_of_unfinished h]

end Gathered

/-! ## Schedules -/

/-- What happens to a stream on which some pieces are written. -/
def written (channel : Channel) (pieces : List (List UInt8)) : List HelperEvent :=
  pieces.map (.wrote channel) ++ [.closed channel]

/-- The order in which a run learns what a program does that is not stopped: the pieces of each
stream one after another and before its end, and the exit at any time. -/
structure IsSchedule (outs errs : List (List UInt8)) (code : Int) (events : List HelperEvent) :
    Prop where
  stdout : events.filter (·.isOf .stdout) = written .stdout outs
  stderr : events.filter (·.isOf .stderr) = written .stderr errs
  exit : events.filter (·.isExit) = [.exited code]
  unstopped : ∀ reason, .stop reason ∉ events

/-- The bytes that events bring to a stream are brought by the events of that stream. -/
theorem flatMap_bytesOn_filter (channel : Channel) (events : List HelperEvent) :
    (events.filter (·.isOf channel)).flatMap (·.bytesOn channel) =
      events.flatMap (·.bytesOn channel) := by
  induction events with
  | nil => rfl
  | cons e events ih =>
    rw [List.filter_cons, List.flatMap_cons]
    split
    · rw [List.flatMap_cons, ih]
    · rename_i hother
      have hnone : e.bytesOn channel = [] := by
        cases e with
        | wrote other bytes => exact if_neg fun heq => hother (decide_eq_true heq)
        | closed _ | exited _ | stop _ => rfl
      rw [hnone, List.nil_append, ih]

theorem flatMap_bytesOn_written (channel : Channel) (pieces : List (List UInt8)) :
    (written channel pieces).flatMap (·.bytesOn channel) = pieces.flatten := by
  induction pieces with
  | nil => rfl
  | cons piece pieces ih =>
    have hcons : written channel (piece :: pieces) =
        .wrote channel piece :: written channel pieces := rfl
    have hpiece : (HelperEvent.wrote channel piece).bytesOn channel = piece := if_pos rfl
    rw [hcons, List.flatMap_cons, ih, hpiece, List.flatten_cons]

/-- Nothing follows the only place of an item at the end of a list. -/
theorem eq_nil_of_append_eq {α : Type} {before after begun : List α} {last : α}
    (h : before ++ after = begun ++ [last]) (hmem : last ∈ before) (hlast : last ∉ begun) :
    after = [] := by
  rcases List.eq_nil_or_concat after with hnil | ⟨others, final, rfl⟩
  · exact hnil
  · rw [List.concat_eq_append, ← List.append_assoc] at h
    have hbegun : before ++ others = begun := (List.append_inj' h rfl).1
    exact absurd (hbegun ▸ List.mem_append_left others hmem) hlast

namespace IsSchedule

variable {outs errs : List (List UInt8)} {code : Int} {events : List HelperEvent}

theorem isFinished (h : IsSchedule outs errs code events) : IsFinished events := by
  have hout : .closed .stdout ∈ events.filter (·.isOf .stdout) := by simp [h.stdout, written]
  have herr : .closed .stderr ∈ events.filter (·.isOf .stderr) := by simp [h.stderr, written]
  have hexit : .exited code ∈ events.filter (·.isExit) := by simp [h.exit]
  exact ⟨(List.mem_filter.1 hout).1, (List.mem_filter.1 herr).1, code, (List.mem_filter.1 hexit).1⟩

theorem code_of_mem (h : IsSchedule outs errs code events) {other : Int}
    (hmem : .exited other ∈ events) : other = code := by
  have hexit : .exited other ∈ events.filter (·.isExit) := List.mem_filter.2 ⟨hmem, rfl⟩
  rw [h.exit, List.mem_singleton] at hexit
  exact HelperEvent.exited.inj hexit

/-- After all events of a schedule the run has gathered the bytes of both streams and the code. -/
theorem gathered_eq (h : IsSchedule outs errs code events) :
    gathered events = ⟨outs.flatten, errs.flatten, true, true, some code, .collecting⟩ := by
  obtain ⟨hout, herr, other, hexit⟩ := h.isFinished
  have hcode : (gathered events).exitCode = some code := by
    obtain ⟨found, hfound⟩ := Option.isSome_iff_exists.1 (isSome_exitCode_gathered.2 ⟨_, hexit⟩)
    obtain ⟨e, he, heq⟩ := List.exists_of_findSome?_eq_some hfound
    cases e with
    | exited _ =>
      cases heq
      rw [hfound, h.code_of_mem (List.mem_reverse.1 he)]
    | wrote _ _ | closed _ | stop _ => cases heq
  have hstdout : (gathered events).stdout = outs.flatten := by
    rw [gathered, ← flatMap_bytesOn_filter, h.stdout, flatMap_bytesOn_written]
  have hstderr : (gathered events).stderr = errs.flatten := by
    rw [gathered, ← flatMap_bytesOn_filter .stderr, h.stderr, flatMap_bytesOn_written]
  rw [← hstdout, ← hstderr, ← hcode]
  simp [gathered, hout, herr]

/-- A run does not have all its endings before the last event of its schedule. -/
theorem not_isFinished {begun rest : List HelperEvent}
    (h : IsSchedule outs errs code (begun ++ rest)) (hrest : rest ≠ []) : ¬ IsFinished begun := by
  rintro ⟨hout, herr, other, hexit⟩
  have hnoOut : rest.filter (·.isOf .stdout) = [] := by
    refine eq_nil_of_append_eq ((List.filter_append ..).symm.trans h.stdout) ?_ (by simp)
    exact List.mem_filter.2 ⟨hout, rfl⟩
  have hnoErr : rest.filter (·.isOf .stderr) = [] := by
    refine eq_nil_of_append_eq ((List.filter_append ..).symm.trans h.stderr) ?_ (by simp)
    exact List.mem_filter.2 ⟨herr, rfl⟩
  have hnoExit : rest.filter (·.isExit) = [] := by
    obtain rfl := h.code_of_mem (List.mem_append_left rest hexit)
    have heq : begun.filter (·.isExit) ++ rest.filter (·.isExit) = [] ++ [.exited other] :=
      (List.filter_append ..).symm.trans h.exit
    exact eq_nil_of_append_eq heq (List.mem_filter.2 ⟨hexit, rfl⟩) nofun
  -- an event after all endings is of a stream or the exit, each of which ends with its ending
  obtain ⟨e, later, rfl⟩ := List.exists_cons_of_ne_nil hrest
  rw [List.filter_eq_nil_iff] at hnoOut hnoErr hnoExit
  cases e with
  | wrote channel _ | closed channel =>
    cases channel with
    | stdout => exact hnoOut _ (.head _) rfl
    | stderr => exact hnoErr _ (.head _) rfl
  | exited _ => exact hnoExit _ (.head _) rfl
  | stop reason => exact h.unstopped reason (by simp)

/-- The last event of a schedule completes the run. -/
theorem run_eq (h : IsSchedule outs errs code events) :
    run events = ⟨outs.flatten, errs.flatten, true, true, some code, .complete⟩ := by
  rcases List.eq_nil_or_concat events with rfl | ⟨begun, last, heq⟩
  · cases h.isFinished.1
  · obtain rfl : events = begun ++ [last] := heq.trans (List.concat_eq_append ..)
    have hbegun : ¬ IsFinished begun := h.not_isFinished (List.cons_ne_nil _ _)
    have hlast : ∀ reason, last ≠ .stop reason := by
      rintro reason rfl
      exact h.unstopped reason (by simp)
    have hstop : ∀ reason, .stop reason ∉ begun := fun reason hmem =>
      h.unstopped reason (List.mem_append_left _ hmem)
    rw [run_append_singleton, run_of_unfinished hstop hbegun, step_gathered hbegun hlast,
      settle_gathered_of_finished h.isFinished, h.gathered_eq]

end IsSchedule

/-! ## What comes of the bytes and the code -/

open Text.Utf8 (Replaces replaces_decodeLossy)

/-- What comes of a program that has written some bytes on its streams and exited with a code. -/
inductive Results (call : HelperCall) (stdout stderr : List UInt8) :
    Int → Except Failure String → Prop
  | text {text : String} (htext : Text.Utf8.encode text = stdout) :
    Results call stdout stderr 0 (.ok text)
  /-- Bytes that are no text are not shown, not even in part. -/
  | undecodable {err : String} (hbytes : ∀ text, Text.Utf8.encode text ≠ stdout)
    (herr : Replaces stderr err.toList) :
    Results call stdout stderr 0 (.error (.helper {
      command := call.command
      arguments := call.arguments
      stdout := ""
      stderr := err
      exitCode := some 0
      fault := .undecodable "utf-8" }))
  | exited {code : Int} {out err : String} (hcode : code ≠ 0) (hout : Replaces stdout out.toList)
    (herr : Replaces stderr err.toList) :
    Results call stdout stderr code (.error (.helper {
      command := call.command
      arguments := call.arguments
      stdout := out
      stderr := err
      exitCode := some code
      fault := .exited code }))

theorem results_completed (call : HelperCall) (stdout stderr : List UInt8) (code : Int) :
    Results call stdout stderr code
      (completed ⟨stdout, stderr, true, true, some code, .complete⟩ .utf8 call) := by
  unfold completed
  -- bytes of an output are read strictly, those of a failure are not
  by_cases hcode : code = 0
  · subst hcode
    dsimp only
    cases hdecode : Text.Utf8.decode stdout with
    | ok text =>
      have hread : Charset.utf8.decode? stdout = some text := congrArg Except.toOption hdecode
      rw [hread]
      exact .text (Text.Utf8.decode_eq_ok_iff.1 hdecode)
    | error fault =>
      have hread : Charset.utf8.decode? stdout = none := congrArg Except.toOption hdecode
      rw [hread]
      exact .undecodable (Text.Utf8.exists_decode_eq_error_iff.1 ⟨fault, hdecode⟩)
        (replaces_decodeLossy stderr)
  · dsimp only
    split
    · rename_i heq
      exact absurd (Option.some.inj heq) hcode
    · exact .exited hcode (replaces_decodeLossy stdout) (replaces_decodeLossy stderr)

/-- The bytes and the code determine what comes of a program. -/
theorem Results.unique {call : HelperCall} {stdout stderr : List UInt8} {code : Int}
    {result result' : Except Failure String} (h : Results call stdout stderr code result)
    (h' : Results call stdout stderr code result') : result = result' := by
  cases h with
  | text htext =>
    cases h' with
    | text htext' => rw [Text.Utf8.encode_injective (htext.trans htext'.symm)]
    | undecodable hbytes => exact absurd htext (hbytes _)
    | exited hcode => exact absurd rfl hcode
  | undecodable hbytes herr =>
    cases h' with
    | text htext' => exact absurd htext' (hbytes _)
    | undecodable _ herr' => rw [String.toList_injective (herr.unique herr')]
    | exited hcode => exact absurd rfl hcode
  | exited hcode hout herr =>
    cases h' with
    | text | undecodable => exact absurd rfl hcode
    | exited _ hout' herr' =>
      rw [String.toList_injective (hout.unique hout'), String.toList_injective (herr.unique herr')]

/-- Whatever the order of the events and the cut of the bytes, a program that finishes before
anything stops it has one outcome, which its bytes and its exit code determine, and has it as soon
as its last event is there.  Its time has to be limited, if at all, by a limit that can be
measured. -/
theorem exists_outcome_of_schedules (call : HelperCall) (hlimit : call.timeout.IsLimit)
    (stdout stderr : List UInt8) (code : Int) :
    ∃ result, Results call stdout stderr code result ∧
      (∀ other, Results call stdout stderr code other → other = result) ∧
      ∀ outs errs events, outs.flatten = stdout → errs.flatten = stderr →
        IsSchedule outs errs code events →
        (∀ later, call.awaited? .utf8 (events ++ later) = some result) ∧
          ∀ begun rest, events = begun ++ rest → rest ≠ [] →
            call.awaited? .utf8 begun = none := by
  have hresults := results_completed call stdout stderr code
  refine ⟨_, hresults, fun other hother => hother.unique hresults, ?_⟩
  -- the run of a schedule depends on its bytes and its code alone
  rintro outs errs events rfl rfl h
  constructor
  · intro later
    have hover : (run events).phase.isOver = true := by
      rw [h.run_eq]
      rfl
    rw [call.awaited?_of_isLimit hlimit, run_append_of_isOver hover, h.run_eq]
    rfl
  · rintro begun rest rfl hrest
    have hstop : ∀ reason, .stop reason ∉ begun := fun reason hmem =>
      h.unstopped reason (List.mem_append_left rest hmem)
    rw [call.awaited?_of_isLimit hlimit, run_of_unfinished hstop (h.not_isFinished hrest)]
    rfl

/-- A helper of the name `print` without arguments. -/
def printCall : HelperCall := ⟨"print", [], .null⟩

/-- The bytes of a letter come apart, between them the exit, and the last letter is not complete. -/
def splitEvents : List HelperEvent :=
  [.wrote .stdout [0x70, 0xC3], .exited 3, .wrote .stderr [0xFF], .closed .stderr,
    .wrote .stdout [0xA9, 0xE2, 0x82], .closed .stdout]

/-- What is not UTF-8 is replaced in the failure of a program. -/
theorem exists_outcome_of_schedules_split :
    printCall.timeout.IsLimit ∧
    IsSchedule [[0x70, 0xC3], [0xA9, 0xE2, 0x82]] [[0xFF]] 3 splitEvents ∧
      printCall.awaited? .utf8 splitEvents =
        some (.error (.helper ⟨"print", [], "pé\uFFFD", "\uFFFD", some 3, .exited 3⟩)) := by
  have hlimit : printCall.timeout.IsLimit := .inl rfl
  have hschedule : IsSchedule [[0x70, 0xC3], [0xA9, 0xE2, 0x82]] [[0xFF]] 3 splitEvents :=
    ⟨by decide, by decide, by decide, by simp [splitEvents]⟩
  refine ⟨hlimit, hschedule, ?_⟩
  obtain ⟨result, -, hunique, hall⟩ := exists_outcome_of_schedules printCall hlimit
    [0x70, 0xC3, 0xA9, 0xE2, 0x82] [0xFF] 3
  have houtcome := (hall _ _ _ rfl rfl hschedule).1 []
  rw [List.append_nil] at houtcome
  have hout : Replaces [0x70, 0xC3, 0xA9, 0xE2, 0x82] "pé\uFFFD".toList :=
    replaces_decodeLossy [0x70, 0xC3, 0xA9, 0xE2, 0x82]
  have herr : Replaces [0xFF] "\uFFFD".toList := replaces_decodeLossy [0xFF]
  rw [houtcome, ← hunique _ (.exited (by decide) hout herr)]
  rfl

end Execution

end PostgresAccess
