import PostgresAccess.Proofs.Assembly.Course
import PostgresAccess.Proofs.Client.Lifecycle
import PostgresAccess.Settings.Reading

/-!
# Minor releases

From release 10 on, PostgreSQL numbers a release by two numbers, and the driver reports the
second of them in the third place, with zero in the second.  An expected version that is written as
two numbers is read the other way: the second number goes to the second place, and the third is
zero.  The two readings do not meet: whatever the minor release of the server, the server passes
exactly when the expected minor release is zero (`connect_of_minor_release`).  In particular a
server can be refused that is newer than expected (`not_connected_newer`).
-/

namespace PostgresAccess

namespace Assembly

/-- Settings whose expected version is written as two numbers have a descriptor that expects the two
and a third that is zero. -/
theorem expectedVersion_of_outcome {assembler : Assembler} {runner : Runner} {s : Settings}
    {d : Descriptor} {major minor : Nat}
    (htext : s.expectedVersion = .text (toString major ++ "." ++ toString minor))
    (h : (assemble assembler runner s).outcome = .ok d) :
    d.expectedVersion = .version (.ofNumbers major minor 0 [] []) := by
  obtain ⟨target, certificate, password, htarget, rfl⟩ := resolved_of_outcome h
  obtain ⟨⟨t, ht, hparse⟩, -⟩ := targetOf_eq_ok.1 htarget
  rw [htext] at ht
  cases ht
  rw [← Version.eq_of_parse_two_numbers hparse]
  rfl

end Assembly

namespace Client

open Version (triple triple_lt_iff textOfNumbers)

/-- What the driver reports of a server of a minor release. -/
def ServerInfo.ofMinorRelease (major minor : Nat) : ServerInfo := .ofNumbers major 0 minor

/-- The numbers of a minor release, as the driver reports them, are below those of an expected minor
release exactly if that one is not zero. -/
theorem triple_minor_lt_iff {major minor expected : Nat} :
    triple major 0 minor < triple major expected 0 ↔ expected ≠ 0 := by
  rw [triple_lt_iff]
  omega

section MinorRelease

variable {assembler : Assembler} {runner : Runner} {s : Settings} {d : Descriptor}
  {library : Tls.Library} {driver : Driver} {arguments : ConnectArguments}
  {connection : Connection} {major minor running : Nat}

/-- Where a minor release is expected, a server of the same major release is admitted if the
expected minor release is zero, and refused otherwise: as too old, if the words for it can be
written. -/
theorem connect_of_minor_release
    (htext : s.expectedVersion = .text (toString major ++ "." ++ toString minor))
    (hassembled : (assemble assembler runner s).outcome = .ok d)
    (harguments : Client.arguments library d = .ok arguments)
    (hopening : driver arguments = .ok connection)
    (hinfo : connection.serverInfo = .ok (.ofMinorRelease major running)) :
    (connect library driver d).outcome =
      if minor = 0 then .ok connection
      else .error (refuse connection
        (if anyOversized (refusalParts d major 0 running major minor 0) then .number .oversized
        else .serverTooOld d.host d.port (textOfNumbers major 0 running [] [])
          (textOfNumbers major minor 0 [] []))) := by
  have hexpected := Assembly.expectedVersion_of_outcome htext hassembled
  -- the running minor release is reported in the third place, so it never makes up for the second
  by_cases hzero : minor = 0
  · have hle : triple major minor 0 ≤ triple major 0 running := by
      rw [← not_lt, triple_minor_lt_iff]
      exact fun hne => hne hzero
    obtain ⟨notices, hcheck⟩ := checkVersion_of_le hexpected rfl hinfo hle
    rw [connect_of_admitted harguments hopening hcheck, if_pos hzero]
  · have hlt : triple major 0 running < triple major minor 0 := triple_minor_lt_iff.2 hzero
    have hcheck := checkVersion_of_lt hexpected rfl hinfo hlt
    rw [connect_of_refused harguments hopening hcheck, if_neg hzero, isCancellation_tooOld,
      tooOld_ofNumbers]
    rfl

end MinorRelease

/-- A connection to a server of a minor release. -/
def minorConnection (major minor : Nat) : Connection :=
  ⟨.ok (.ofMinorRelease major minor), .ok ()⟩

/-- The descriptor of a document that gives the expected version alone. -/
def descriptorExpecting (version : String) : Except Failure Descriptor := do
  let s ← Settings.parse .empty "<mapping>" (.table [("expected_version", .text version)])
  (assemble ⟨.ofWord 7, .null, .text defaultApplicationName⟩ (fun _ => ⟨.ok "", []⟩) s).outcome

/-- A descriptor that expects a minor release. -/
def minorDescriptor (major minor : Nat) : Descriptor :=
  .ofTarget "localhost" 5432 "postgres" "postgres" (.ofNumbers major minor 0 [] [])

/-- A server of release 15.7 is admitted where 15.0 is expected. -/
theorem connect_of_minor_release_fifteen :
    descriptorExpecting (toString 15 ++ "." ++ toString 0) = .ok (minorDescriptor 15 0) ∧
    (∃ arguments, Client.arguments .permissive (minorDescriptor 15 0) = .ok arguments) ∧
    (connect .permissive (fun _ => .ok (minorConnection 15 7))
      (minorDescriptor 15 0)).outcome = .ok (minorConnection 15 7) := by
  have hdescriptor :
      descriptorExpecting (toString 15 ++ "." ++ toString 0) = .ok (minorDescriptor 15 0) := rfl
  obtain ⟨arguments, harguments⟩ : ∃ arguments,
      Client.arguments .permissive (minorDescriptor 15 0) = .ok arguments := ⟨_, rfl⟩
  obtain ⟨s, hparse, hassembled⟩ := Result.bind_eq_ok.1 hdescriptor
  have htext : s.expectedVersion = .text (toString 15 ++ "." ++ toString 0) := by
    cases hparse
    rfl
  exact ⟨hdescriptor, ⟨arguments, harguments⟩,
    connect_of_minor_release htext hassembled harguments rfl rfl⟩

/-- Release 15.7 is newer than 15.4, which is expected, but the server is refused as too old. -/
theorem not_connected_newer :
    descriptorExpecting (toString 15 ++ "." ++ toString 4) = .ok (minorDescriptor 15 4) ∧
    (connect .permissive (fun _ => .ok (minorConnection 15 7))
      (minorDescriptor 15 4)).outcome =
        .error (.serverTooOld (.text "localhost") (.int 5432) "15.0.7" "15.4.0") := by
  refine ⟨rfl, ?_⟩
  have hlt : triple (15 : Nat) 0 (7 : Nat) < triple (15 : Nat) (4 : Nat) 0 :=
    triple_minor_lt_iff.2 (by decide)
  have hcheck : checkVersion (minorDescriptor 15 4) (minorConnection 15 7) = _ :=
    checkVersion_of_lt rfl rfl rfl hlt
  have hwritten : anyOversized (refusalParts (minorDescriptor 15 4) (15 : Nat) 0 (7 : Nat)
      (15 : Nat) (4 : Nat) 0) = false := by decide +kernel
  obtain ⟨arguments, harguments⟩ : ∃ arguments,
      Client.arguments .permissive (minorDescriptor 15 4) = .ok arguments := ⟨_, rfl⟩
  rw [tooOld_ofNumbers, hwritten] at hcheck
  have hattempt : connect .permissive (fun _ => .ok (minorConnection 15 7))
      (minorDescriptor 15 4) = _ := connect_of_refused harguments rfl hcheck
  rw [hattempt]
  rfl

end Client

end PostgresAccess
