import PostgresAccess.Proofs.Assembly.Password
import PostgresAccess.Proofs.Assembly.Soundness
import PostgresAccess.Proofs.Helper.Timing

/-!
# What a helper prints becomes the password

Three stages lie between a program that prints a secret and the descriptor: the run collects bytes
in pieces, the pieces together are read as UTF-8, and one line end is removed.  The first two give
back the text that was printed, however it was cut (`outcome_runner`); valid settings that name a
helper have a descriptor for any output (`exists_descriptor_of_printed`); so a secret arrives as it
was if the line end that is removed is the one that was added (`assemble_secret`).

`Execution.runner` is the runner of a helper to which some events happen.  Programs that a system
starts are run in this way (`runner_of_started`), and so their secrets arrive as well
(`assemble_secret_of_started`).
-/

namespace PostgresAccess

open Text (Charset)

namespace Execution

variable {call : HelperCall} {outs errs : List (List UInt8)} {schedule later : List HelperEvent}

/-- The runner of helpers that are a process to which some events happen. -/
def runner (process : Nat) (events : HelperCall → List HelperEvent) : Runner := fun call =>
  call.reply .utf8 process (events call)

/-- The events of a program that is started are those of its behaviour in time. -/
theorem runner_of_started {system : System} {b : Behaviour} (h : call.started system = .ok b) :
    system.runner call =
      runner b.process (fun call => b.events (Behaviour.stopTime call.timeout .null)) call := by
  rw [System.runner, h]
  rfl

/-- A program that prints a text and exits with zero before its run is to stop has the text for its
outcome, in whatever pieces it comes. -/
theorem outcome_runner {process : Nat} {events : HelperCall → List HelperEvent}
    {printed : String} (hlimit : call.timeout.IsLimit) (hevents : events call = schedule ++ later)
    (hschedule : IsSchedule outs errs 0 schedule)
    (hprinted : outs.flatten = Text.Utf8.encode printed) :
    (runner process events call).outcome = .ok printed := by
  have hover : (run schedule).phase.isOver = true := by
    rw [hschedule.run_eq]
    rfl
  -- what happens after the exit finds a run that is over
  have hrun : run (events call) =
      ⟨Text.Utf8.encode printed, errs.flatten, true, true, some 0, .complete⟩ := by
    rw [hevents, run_append_of_isOver hover, hschedule.run_eq, hprinted]
  have hread : Charset.utf8.decode? (Text.Utf8.encode printed) = some printed :=
    congrArg Except.toOption (Text.Utf8.decode_eq_ok_iff.2 rfl)
  have houtcome : (run (events call)).outcome? .utf8 call = some (.ok printed) := by
    rw [hrun]
    simp only [outcome?, completed, hread]
  simp only [runner, HelperCall.reply, call.awaited?_of_isLimit hlimit, houtcome]
  rfl

end Execution

namespace Assembly

/-- Valid settings whose password a helper prints have a descriptor for whatever it prints, and the
password is that without its line end. -/
theorem exists_descriptor_of_printed {assembler : Assembler} {runner : Runner} {s : Settings}
    {call : HelperCall} {printed secret : String} (hvalid : s.AreValid)
    (hserves : assembler.allocator.Serves s)
    (hsource : passwordSource assembler.timeout s = .ok (.helper call))
    (hreply : (runner call).outcome = .ok printed) (hended : LineEndRemoved printed secret) :
    ∃ d, (assemble assembler runner s).outcome = .ok d ∧ d.password = .text secret := by
  obtain ⟨target, htarget⟩ := targetOf_of_areValid hvalid hserves
  obtain ⟨d, hd⟩ := describe_of_areValid assembler target (.text secret) hvalid
  have hpassword : d.password = .text secret := by
    obtain ⟨certificate, -, -, -, rfl⟩ := describe_eq_ok.1 hd
    rfl
  have hstrip : stripLineEnd printed = secret := stripLineEnd_eq_iff.2 hended
  refine ⟨d, ?_, hpassword⟩
  simp only [assemble, htarget, hsource, hreply, complete_outcome, hstrip, hd]

end Assembly

open Assembly Execution

/-- A secret arrives as it was.  The settings are valid and name a helper, and no password is given;
the helper prints the secret with a line end after it, or with none, and exits with zero before its
run is to stop.  Then the password of the descriptor is the secret, however the bytes are cut,
whatever comes on the other stream, and whatever happens after the exit.

A limit that cannot be measured is refused before anything is awaited, so it is not a limit here;
and the allocator has to have a port if there is a jump host. -/
theorem assemble_secret {s : Settings} {assembler : Assembler} {process : Nat}
    {events : HelperCall → List HelperEvent} {line command printed secret : String}
    {arguments : List String} {outs errs : List (List UInt8)} {schedule later : List HelperEvent}
    (hvalid : s.AreValid) (hserves : assembler.allocator.Serves s) (hunset : s.password = .null)
    (hline : s.passwordCommand = .text line)
    (hnamed : ∃ c ∈ line.toList, Text.isBlank c = false)
    (hsplit : Words.split line = .ok (command :: arguments)) (hlimit : assembler.timeout.IsLimit)
    (hevents : events ⟨command, arguments, assembler.timeout⟩ = schedule ++ later)
    (hschedule : IsSchedule outs errs 0 schedule)
    (hprinted : outs.flatten = Text.Utf8.encode printed) (hended : LineEndRemoved printed secret) :
    ∃ d, (assemble assembler (runner process events) s).outcome = .ok d ∧
      d.password = .text secret := by
  have hsource : passwordSource assembler.timeout s =
      .ok (.helper ⟨command, arguments, assembler.timeout⟩) :=
    passwordSource_eq_helper.2
      ⟨hunset, line, command, arguments, hline, isBlankText_eq_false.2 hnamed, hsplit, rfl⟩
  have hreply : (runner process events ⟨command, arguments, assembler.timeout⟩).outcome =
      .ok printed :=
    outcome_runner hlimit hevents hschedule hprinted
  exact exists_descriptor_of_printed hvalid hserves hsource hreply hended

/-- A helper prints a secret that ends in a blank and a line feed of its own.  A letter comes apart,
and so does the line end; the program has exited in between. -/
def secretEvents : List HelperEvent :=
  [.wrote .stdout [0x63, 0xC3], .wrote .stderr [0xFF], .exited 0,
    .wrote .stdout [0xA9, 0x20, 0x0A, 0x0D], .closed .stderr, .wrote .stdout [0x0A],
    .closed .stdout]

/-- The time is over only after the last of the events. -/
theorem assemble_secret_in_pieces :
    tunnelledSettings.AreValid ∧ (Tunnel.Allocator.ofWord 7).Serves tunnelledSettings ∧
    (Value.int 30).IsLimit ∧
    ∃ d, (assemble ⟨.ofWord 7, .int 30, .text defaultApplicationName⟩
        (runner 7 fun _ => secretEvents ++ [.stop .expired]) tunnelledSettings).outcome = .ok d ∧
      d.password = .text "cé \n" := by
  have hparse : Settings.parse .empty "<mapping>" tunnelledDocument = .ok tunnelledSettings := rfl
  have hvalid : tunnelledSettings.AreValid := Settings.areValid_of_parse hparse
  have hserves := Tunnel.Allocator.serves_ofWord 7 tunnelledSettings
  have hlimit : (Value.int 30).IsLimit := .inr ⟨rfl, by decide +kernel⟩
  have hschedule : IsSchedule [[0x63, 0xC3], [0xA9, 0x20, 0x0A, 0x0D], [0x0A]] [[0xFF]] 0
      secretEvents :=
    ⟨by decide, by decide, by decide, by simp [secretEvents]⟩
  exact ⟨hvalid, hserves, hlimit, assemble_secret hvalid hserves rfl rfl
    ⟨'p', by decide, by decide⟩ rfl hlimit rfl hschedule rfl (.pair "cé \n")⟩

/-- The secret of a program that a system starts arrives as it was: the program prints it and
finishes before its time is over. -/
theorem assemble_secret_of_started {s : Settings} {assembler : Assembler} {system : System}
    {call : HelperCall} {b : Behaviour} {printed secret : String}
    (hvalid : s.AreValid) (hserves : assembler.allocator.Serves s)
    (hsource : passwordSource assembler.timeout s = .ok (.helper call))
    (hlimit : call.timeout.IsLimit) (hstarted : call.started system = .ok b)
    (hfinishes : b.FinishesWith (Behaviour.stopTime call.timeout .null) 0)
    (hprinted : (b.pieces (Behaviour.stopTime call.timeout .null) .stdout).flatten =
      Text.Utf8.encode printed) (hended : LineEndRemoved printed secret) :
    ∃ d, (assemble assembler system.runner s).outcome = .ok d ∧ d.password = .text secret := by
  have hschedule := Behaviour.isSchedule_natural hfinishes
  have hreply : (system.runner call).outcome = .ok printed := by
    rw [runner_of_started hstarted]
    exact outcome_runner hlimit rfl hschedule hprinted
  exact exists_descriptor_of_printed hvalid hserves hsource hreply hended

end PostgresAccess
