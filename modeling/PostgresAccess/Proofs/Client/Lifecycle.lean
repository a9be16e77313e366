import Mathlib.Data.Prod.Lex
import PostgresAccess.Client
import PostgresAccess.Proofs.Version.Order
import PostgresAccess.Proofs.Version.Reading

/-!
# The life of a connection

An attempt to connect ends in one of five ways: the arguments are not built, the driver opens
nothing, asking for the version is cancelled, the server is not admitted, or the connection is
returned.  The last three open a connection, and of them only the fourth closes it, once.

Which of the last two it is depends on releases alone.  A server reports three numbers and no
prerelease, so it comes before the expected version exactly when its numbers are lexicographically
below those of the expected release (`Version.answers_before_release`).  The main result,
`connect_lifecycle`, puts the five ways and the order together.

The words of a failure name the server and both versions.  A number of too many digits is not
written, and neither is an identifier that is no text; then the failure is another one
(`tooOld_ofNumbers`, `lifecycle_exceptions`).
-/

namespace PostgresAccess

/-! ## Releases -/

namespace Version

open Result

/-- The numbers of a release, ordered lexicographically. -/
def triple (major minor patch : Int) : ℤ ×ₗ ℤ ×ₗ ℤ := toLex (major, toLex (minor, patch))

theorem triple_lt_iff {major minor patch major' minor' patch' : Int} :
    triple major minor patch < triple major' minor' patch' ↔
      major < major' ∨ (major = major' ∧
        (minor < minor' ∨ (minor = minor' ∧ patch < patch'))) := by
  simp [triple, Prod.Lex.toLex_lt_toLex]

/-- Of a version that a release is compared with, nothing but its release matters. -/
theorem before_congr_release {a b c : Version} (ha : a.prerelease = [])
    (hrelease : b.release = c.release) : before a b = before a c := by
  simp only [before, sameRelease, releaseBefore, hrelease, ha, List.isEmpty_nil, Bool.true_or,
    Bool.not_true, Bool.false_and, ↓reduceIte]

/-- A release comes before a version, be it a prerelease or not, when its numbers are below. -/
theorem answers_before_release {expected : Version} {major minor patch : Int} (M m p : Int)
    (hrelease : expected.release = [.int major, .int minor, .int patch]) :
    Answers (before (.ofNumbers M m p [] []) expected)
      (triple M m p < triple major minor patch) := by
  have hcongr : before (.ofNumbers M m p [] []) expected =
      before (.ofNumbers M m p [] []) (.ofNumbers major minor patch [] []) :=
    before_congr_release rfl hrelease
  rw [hcongr]
  by_cases hsame : M = major ∧ m = minor ∧ p = patch
  · have hbefore : before (.ofNumbers M m p [] []) (.ofNumbers major minor patch [] []) =
        .ok false := by
      rw [before, sameRelease_ofNumbers, decide_eq_true hsame]
      rfl
    obtain ⟨rfl, rfl, rfl⟩ := hsame
    rw [hbefore]
    exact .no (lt_irrefl _)
  · rw [before_ofNumbers_of_ne hsame]
    exact .congr .decide triple_lt_iff.symm

end Version

namespace Client

open Result
open Version (triple textOfNumbers)

/-! ## The version gate -/

/-- What a server reports that runs the release of three numbers. -/
def ServerInfo.ofNumbers (major minor micro : Int) : ServerInfo :=
  ⟨.int major, .int minor, .int micro⟩

section Gate

variable {d : Descriptor} {connection : Connection} {expected : Version}
  {M m p major minor patch : Int} {prerelease build : List String}

theorem isCancellation_tooOld (host port : Value) (actual wanted : Version.Operand) :
    (tooOld host port wanted actual).isCancellation = false := by
  have htext (fault : Version.TextFault) : (Failure.ofTextFault fault).isCancellation = false := by
    cases fault with
    | oversized => rfl
    | identifier fault => cases fault <;> rfl
  unfold tooOld
  repeat' split
  all_goals first | rfl | exact htext _

/-- What the words for a server are written of that runs a release and is too old. -/
def refusalParts (d : Descriptor) (M m p major minor patch : Int) : List Value :=
  [d.host, d.port, .int M, .int m, .int p, .int major, .int minor, .int patch]

/-- A server that is too old is refused for that if the words for it can be written. -/
theorem tooOld_ofNumbers :
    tooOld d.host d.port (.version (.ofNumbers major minor patch prerelease build))
        (.version (.ofNumbers M m p [] [])) =
      if anyOversized (refusalParts d M m p major minor patch) then .number .oversized
      else .serverTooOld d.host d.port (textOfNumbers M m p [] [])
        (textOfNumbers major minor patch prerelease build) := by
  have hshown (v : Version) : Version.Operand.shown (.version v) = v.render := rfl
  have hparts : anyOversized (refusalParts d M m p major minor patch) =
      (anyOversized [d.host, d.port] || (anyOversized [.int M, .int m, .int p] ||
        anyOversized [.int major, .int minor, .int patch])) := by
    simp only [refusalParts, anyOversized, Bool.or_false, Bool.or_assoc]
  rw [tooOld, hshown, hshown, Version.render_ofNumbers, Version.render_ofNumbers, hparts]
  -- the words are written from the host and the port, then the two versions: any part may fail
  cases anyOversized [d.host, d.port] <;> cases anyOversized [.int M, .int m, .int p] <;>
    cases anyOversized [.int major, .int minor, .int patch] <;> rfl

/-- The gate asks whether the server's version comes before the expected one. -/
theorem checkVersion_eq_ite {isOlder : Bool} (hexpected : d.expectedVersion = .version expected)
    (hinfo : connection.serverInfo = .ok (.ofNumbers M m p))
    (hbefore : Version.before (.ofNumbers M m p [] []) expected = .ok isOlder) :
    checkVersion d connection =
      if isOlder then .error (tooOld d.host d.port d.expectedVersion
        (.version (.ofNumbers M m p [] [])))
      else .ok (satisfiedNotices d.expectedVersion (.version (.ofNumbers M m p [] []))) := by
  have hversion : (ServerInfo.ofNumbers M m p).version = .ofNumbers M m p [] [] := rfl
  have hrelated : Version.Operand.related .before (.version (.ofNumbers M m p [] []))
      (.version expected) = .ok isOlder := by
    rw [Version.Operand.related, Version.related, hbefore]
    rfl
  unfold checkVersion checkServer gate
  rw [hinfo, hexpected]
  simp only [bind, Except.bind, Except.mapError, hversion, hrelated]
  cases isOlder <;> rfl

theorem checkVersion_of_le (hexpected : d.expectedVersion = .version expected)
    (hrelease : expected.release = [.int major, .int minor, .int patch])
    (hinfo : connection.serverInfo = .ok (.ofNumbers M m p))
    (hle : triple major minor patch ≤ triple M m p) :
    ∃ notices, checkVersion d connection = .ok notices := by
  have hbefore := (Version.answers_before_release M m p hrelease).eq_false_iff.2 (not_lt.2 hle)
  exact ⟨_, checkVersion_eq_ite hexpected hinfo hbefore⟩

theorem checkVersion_of_lt (hexpected : d.expectedVersion = .version expected)
    (hrelease : expected.release = [.int major, .int minor, .int patch])
    (hinfo : connection.serverInfo = .ok (.ofNumbers M m p))
    (hlt : triple M m p < triple major minor patch) :
    checkVersion d connection =
      .error (tooOld d.host d.port (.version expected) (.version (.ofNumbers M m p [] []))) := by
  have hbefore := (Version.answers_before_release M m p hrelease).eq_true_iff.2 hlt
  rw [checkVersion_eq_ite hexpected hinfo hbefore, hexpected]
  rfl

end Gate

/-! ## How an attempt ends -/

section Outcome

variable {library : Tls.Library} {driver : Driver} {d : Descriptor} {connection : Connection}
  {arguments : ConnectArguments} {failure : Failure} {notices : List Notice}

theorem connect_of_arguments_error (harguments : Client.arguments library d = .error failure) :
    connect library driver d =
      ⟨.error (openingFailure d failure), argumentNotices d, [], 0⟩ := by
  simp only [connect, harguments]

theorem connect_of_unopened (harguments : Client.arguments library d = .ok arguments)
    (hopening : driver arguments = .error failure) :
    connect library driver d =
      ⟨.error (openingFailure d failure), argumentNotices d, [arguments], 0⟩ := by
  simp only [connect, harguments, hopening]

/-- A connection that is not admitted is closed, but not on the way of a request to cancel. -/
theorem connect_of_refused (harguments : Client.arguments library d = .ok arguments)
    (hopening : driver arguments = .ok connection)
    (hcheck : checkVersion d connection = .error failure) :
    connect library driver d =
      if failure.isCancellation then ⟨.error failure, argumentNotices d, [arguments], 0⟩
      else ⟨.error (refuse connection failure), argumentNotices d, [arguments], 1⟩ := by
  simp only [connect, harguments, hopening, hcheck]

theorem connect_of_admitted (harguments : Client.arguments library d = .ok arguments)
    (hopening : driver arguments = .ok connection)
    (hcheck : checkVersion d connection = .ok notices) :
    connect library driver d =
      ⟨.ok connection, argumentNotices d ++ notices, [arguments], 0⟩ := by
  simp only [connect, harguments, hopening, hcheck]

/-- A connection is returned only if it was opened and admitted, and then it is open. -/
theorem outcome_eq_ok_iff :
    (connect library driver d).outcome = .ok connection ↔
      ∃ arguments notices, Client.arguments library d = .ok arguments ∧
        driver arguments = .ok connection ∧ checkVersion d connection = .ok notices := by
  constructor
  · intro h
    cases harguments : Client.arguments library d with
    | error failure =>
      rw [connect_of_arguments_error harguments] at h
      cases h
    | ok arguments =>
      cases hopening : driver arguments with
      | error failure =>
        rw [connect_of_unopened harguments hopening] at h
        cases h
      | ok opened =>
        cases hcheck : checkVersion d opened with
        | error reason =>
          rw [connect_of_refused harguments hopening hcheck] at h
          split at h <;> cases h
        | ok notices =>
          rw [connect_of_admitted harguments hopening hcheck] at h
          cases h
          exact ⟨arguments, notices, rfl, hopening, hcheck⟩
  · rintro ⟨arguments, notices, harguments, hopening, hcheck⟩
    rw [connect_of_admitted harguments hopening hcheck]

/-- What leaves an attempt that opens no connection is told with the target if that can be
written. -/
theorem openingFailure_eq (hreason : failure.isCancellation = false)
    (hwritten : anyOversized [d.host, d.port, d.database] = false) :
    openingFailure d failure = .connection d.host d.port d.database failure.message := by
  simp only [openingFailure, hreason, hwritten]
  rfl

theorem openingFailure_of_isCancellation (hreason : failure.isCancellation = true) :
    openingFailure d failure = failure :=
  if_pos hreason

end Outcome

/-! ## The life of a connection -/

/-- Connections that report the version of their server by three numbers. -/
def Driver.ReportsNumbers (driver : Driver) : Prop :=
  ∀ arguments connection info, driver arguments = .ok connection →
    connection.serverInfo = .ok info → ∃ M m p, info = .ofNumbers M m p

/-- What holds of an attempt to connect to a server of which a version is expected, be it a
prerelease or not: its release decides. -/
structure Lifecycle (library : Tls.Library) (driver : Driver) (d : Descriptor)
    (expected : Version) (major minor patch : Int) (attempt : Attempt) : Prop where
  /-- The opened connection is returned exactly if the server reports a release that is not below
  the expected one. -/
  returned : ∀ connection, attempt.outcome = .ok connection ↔
    ∃ arguments M m p, Client.arguments library d = .ok arguments ∧
      driver arguments = .ok connection ∧
      connection.serverInfo = .ok (.ofNumbers M m p) ∧
      triple major minor patch ≤ triple M m p
  /-- A returned connection was never closed. -/
  neverClosed : ∀ connection, attempt.outcome = .ok connection → attempt.closes = 0
  /-- A connection that is opened and not returned was closed once, unless asking for the version
  was cancelled.  What leaves the attempt is the failure of closing it if there is one, and
  otherwise why the connection is not returned: that the server is too old, if the words for it can
  be written. -/
  closed : ∀ arguments connection failure, Client.arguments library d = .ok arguments →
    driver arguments = .ok connection → attempt.outcome = .error failure →
    (∀ reason, connection.serverInfo = .error reason → reason.isCancellation = false) →
    attempt.closes = 1 ∧
    (∀ closing, connection.close = .error closing → failure = closing) ∧
    (connection.close = .ok () →
      (∀ reason, connection.serverInfo = .error reason → failure = reason) ∧
      ∀ M m p, connection.serverInfo = .ok (.ofNumbers M m p) →
        triple M m p < triple major minor patch ∧
        ∀ prerelease build, expected = .ofNumbers major minor patch prerelease build →
          anyOversized (refusalParts d M m p major minor patch) = false →
          failure = .serverTooOld d.host d.port (textOfNumbers M m p [] [])
            (textOfNumbers major minor patch prerelease build))
  /-- A request to cancel that comes from asking for the version leaves the attempt as it is, and
  the connection open. -/
  interrupted : ∀ arguments connection reason, Client.arguments library d = .ok arguments →
    driver arguments = .ok connection → connection.serverInfo = .error reason →
    reason.isCancellation = true → attempt.outcome = .error reason ∧ attempt.closes = 0
  /-- Arguments that are not built open nothing. -/
  unprepared : ∀ failure, Client.arguments library d = .error failure →
    attempt.opened = [] ∧ attempt.closes = 0 ∧ (∀ connection, attempt.outcome ≠ .ok connection) ∧
    (failure.isCancellation = false → anyOversized [d.host, d.port, d.database] = false →
      attempt.outcome = .error (.connection d.host d.port d.database failure.message))
  /-- A driver that fails has opened nothing that could be closed. -/
  unopened : ∀ arguments failure, Client.arguments library d = .ok arguments →
    driver arguments = .error failure →
    attempt.closes = 0 ∧ (∀ connection, attempt.outcome ≠ .ok connection) ∧
    (failure.isCancellation = false → anyOversized [d.host, d.port, d.database] = false →
      attempt.outcome = .error (.connection d.host d.port d.database failure.message))
  /-- A cancellation of the driver leaves the attempt as it is. -/
  cancelled : ∀ arguments failure, Client.arguments library d = .ok arguments →
    driver arguments = .error failure → failure.isCancellation = true →
    attempt.outcome = .error failure

section Lifecycle

variable {library : Tls.Library} {driver : Driver} {d : Descriptor} {connection : Connection}
  {expected : Version} {major minor patch : Int}

theorem release_of_checkVersion {notices : List Notice}
    (hexpected : d.expectedVersion = .version expected)
    (hrelease : expected.release = [.int major, .int minor, .int patch])
    (hinfo : ∀ info, connection.serverInfo = .ok info → ∃ M m p, info = .ofNumbers M m p)
    (hcheck : checkVersion d connection = .ok notices) :
    ∃ M m p, connection.serverInfo = .ok (.ofNumbers M m p) ∧
      triple major minor patch ≤ triple M m p := by
  obtain ⟨info, hok, -⟩ := bind_eq_ok.1 hcheck
  obtain ⟨M, m, p, rfl⟩ := hinfo info hok
  refine ⟨M, m, p, hok, not_lt.1 fun hlt => ?_⟩
  rw [checkVersion_of_lt hexpected hrelease hok hlt] at hcheck
  cases hcheck

theorem checkVersion_of_unread {reason : Failure} (hread : connection.serverInfo = .error reason) :
    checkVersion d connection = .error reason := by
  rw [checkVersion, hread]
  rfl

/-- Why a connection is not admitted of which a version was read: the server is too old. -/
theorem reason_of_checkVersion {reason : Failure} {M m p : Int}
    (hexpected : d.expectedVersion = .version expected)
    (hrelease : expected.release = [.int major, .int minor, .int patch])
    (hread : connection.serverInfo = .ok (.ofNumbers M m p))
    (hcheck : checkVersion d connection = .error reason) :
    triple M m p < triple major minor patch ∧
      reason = tooOld d.host d.port (.version expected) (.version (.ofNumbers M m p [] [])) := by
  have hlt : triple M m p < triple major minor patch := by
    by_contra hle
    obtain ⟨notices, hadmitted⟩ := checkVersion_of_le hexpected hrelease hread (not_lt.1 hle)
    rw [hadmitted] at hcheck
    cases hcheck
  rw [checkVersion_of_lt hexpected hrelease hread hlt] at hcheck
  exact ⟨hlt, (Except.error.inj hcheck).symm⟩

theorem isCancellation_of_checkVersion {reason : Failure} {info : ServerInfo}
    (hexpected : d.expectedVersion = .version expected)
    (hrelease : expected.release = [.int major, .int minor, .int patch])
    (hinfo : ∃ M m p, info = .ofNumbers M m p) (hread : connection.serverInfo = .ok info)
    (hcheck : checkVersion d connection = .error reason) : reason.isCancellation = false := by
  obtain ⟨M, m, p, rfl⟩ := hinfo
  obtain ⟨-, rfl⟩ := reason_of_checkVersion hexpected hrelease hread hcheck
  exact isCancellation_tooOld ..

/-- The life of a connection: whatever the driver does, an opened connection is returned and open
if the server is new enough, and otherwise closed once before a failure leaves the attempt. -/
theorem connect_lifecycle (hexpected : d.expectedVersion = .version expected)
    (hrelease : expected.release = [.int major, .int minor, .int patch])
    (hreports : driver.ReportsNumbers) :
    Lifecycle library driver d expected major minor patch (connect library driver d) where
  returned connection := by
    rw [outcome_eq_ok_iff]
    constructor
    · rintro ⟨arguments, notices, harguments, hopening, hcheck⟩
      have hinfo := fun info => hreports arguments connection info hopening
      obtain ⟨M, m, p, hok, hle⟩ := release_of_checkVersion hexpected hrelease hinfo hcheck
      exact ⟨arguments, M, m, p, harguments, hopening, hok, hle⟩
    · rintro ⟨arguments, M, m, p, harguments, hopening, hok, hle⟩
      obtain ⟨notices, hcheck⟩ := checkVersion_of_le hexpected hrelease hok hle
      exact ⟨arguments, notices, harguments, hopening, hcheck⟩
  neverClosed connection h := by
    obtain ⟨arguments, notices, harguments, hopening, hcheck⟩ := outcome_eq_ok_iff.1 h
    rw [connect_of_admitted harguments hopening hcheck]
  closed arguments connection failure harguments hopening h hunread := by
    cases hcheck : checkVersion d connection with
    | ok notices =>
      rw [connect_of_admitted harguments hopening hcheck] at h
      cases h
    | error reason =>
      -- the reason is that of an unread version, or it says that the server is too old
      have hreason : reason.isCancellation = false := by
        cases hread : connection.serverInfo with
        | error unread =>
          rw [checkVersion_of_unread hread] at hcheck
          cases hcheck
          exact hunread reason hread
        | ok info =>
          have hinfo := hreports arguments connection info hopening hread
          exact isCancellation_of_checkVersion hexpected hrelease hinfo hread hcheck
      have hattempt := connect_of_refused harguments hopening hcheck
      rw [hreason, if_neg Bool.false_ne_true] at hattempt
      rw [hattempt] at h ⊢
      cases h
      refine ⟨rfl, fun closing hclose => ?_, fun hclose => ⟨fun unread hread => ?_, ?_⟩⟩
      · rw [refuse, hclose]
      · rw [checkVersion_of_unread hread] at hcheck
        cases hcheck
        rw [refuse, hclose]
      · intro M m p hread
        obtain ⟨hlt, rfl⟩ := reason_of_checkVersion hexpected hrelease hread hcheck
        refine ⟨hlt, fun prerelease build hnumbers hwritten => ?_⟩
        rw [refuse, hclose, hnumbers, tooOld_ofNumbers, hwritten]
        rfl
  interrupted arguments connection reason harguments hopening hread hreason := by
    have hattempt := connect_of_refused harguments hopening (checkVersion_of_unread hread)
    rw [hattempt, if_pos hreason]
    exact ⟨rfl, rfl⟩
  unprepared failure harguments := by
    rw [connect_of_arguments_error harguments]
    refine ⟨rfl, rfl, by simp, fun hreason hwritten => ?_⟩
    rw [openingFailure_eq hreason hwritten]
  unopened arguments failure harguments hopening := by
    rw [connect_of_unopened harguments hopening]
    refine ⟨rfl, by simp, fun hreason hwritten => ?_⟩
    rw [openingFailure_eq hreason hwritten]
  cancelled arguments failure harguments hopening hreason := by
    rw [connect_of_unopened harguments hopening, openingFailure_of_isCancellation hreason]

end Lifecycle

/-- A connection to a server of a release. -/
def plainConnection (major minor micro : Int) : Connection :=
  ⟨.ok (.ofNumbers major minor micro), .ok ()⟩

/-- A descriptor that expects the first candidate of release 16.2. -/
def candidateDescriptor : Descriptor :=
  .ofTarget "db.internal" 5432 "ledger" "clerk" (.ofNumbers 16 2 0 ["rc", "1"] ["deb"])

/-- A connection to a server of a release that breaks when it is closed. -/
def brittleConnection (major minor micro : Int) : Connection :=
  ⟨.ok (.ofNumbers major minor micro), .error (.stated .system "reset by peer" [])⟩

/-- The release itself is admitted to where its candidate is expected.  The one before it is not,
and is told to be too old unless closing the connection to it fails. -/
theorem connect_lifecycle_candidate :
    candidateDescriptor.expectedVersion = .version (.ofNumbers 16 2 0 ["rc", "1"] ["deb"]) ∧
    Version.release (.ofNumbers 16 2 0 ["rc", "1"] ["deb"]) = [.int 16, .int 2, .int 0] ∧
    (∀ connection : Connection, (∃ M m p, connection.serverInfo = .ok (.ofNumbers M m p)) →
      Driver.ReportsNumbers fun _ => .ok connection) ∧
    (connect .permissive (fun _ => .ok (brittleConnection 16 2 0))
      candidateDescriptor).outcome = .ok (brittleConnection 16 2 0) ∧
    (connect .permissive (fun _ => .ok (brittleConnection 16 1 9))
      candidateDescriptor).outcome = .error (.stated .system "reset by peer" []) ∧
    (connect .permissive (fun _ => .ok (plainConnection 16 1 9)) candidateDescriptor).outcome =
      .error (.serverTooOld (.text "db.internal") (.int 5432) "16.1.9" "16.2.0-rc.1+deb") ∧
    (connect .permissive (fun _ => .ok (plainConnection 16 1 9))
      candidateDescriptor).closes = 1 := by
  have hexpected : candidateDescriptor.expectedVersion =
      .version (.ofNumbers 16 2 0 ["rc", "1"] ["deb"]) := rfl
  have hrelease : Version.release (.ofNumbers 16 2 0 ["rc", "1"] ["deb"]) =
      [.int 16, .int 2, .int 0] := rfl
  have hreports : ∀ connection : Connection,
      (∃ M m p, connection.serverInfo = .ok (.ofNumbers M m p)) →
      Driver.ReportsNumbers fun _ => .ok connection := by
    rintro connection ⟨M, m, p, hinfo⟩ arguments opened info ⟨⟩ hread
    rw [hinfo] at hread
    cases hread
    exact ⟨M, m, p, rfl⟩
  obtain ⟨arguments, harguments⟩ : ∃ arguments,
      Client.arguments .permissive candidateDescriptor = .ok arguments := ⟨_, rfl⟩
  have hlife : ∀ connection : Connection,
      (∃ M m p, connection.serverInfo = .ok (.ofNumbers M m p)) →
      Lifecycle .permissive (fun _ => .ok connection) candidateDescriptor
        (.ofNumbers 16 2 0 ["rc", "1"] ["deb"]) 16 2 0
        (connect .permissive (fun _ => .ok connection) candidateDescriptor) :=
    fun connection hinfo => connect_lifecycle hexpected hrelease (hreports connection hinfo)
  have hle : triple 16 2 0 ≤ triple 16 2 0 := le_refl _
  -- no connection to the older server is returned, so a failure leaves the attempt
  have hfails : ∀ connection : Connection, connection.serverInfo = .ok (.ofNumbers 16 1 9) →
      ∃ failure, (connect .permissive (fun _ => .ok connection) candidateDescriptor).outcome =
        .error failure := by
    intro connection hinfo
    cases houtcome :
      (connect .permissive (fun _ => .ok connection) candidateDescriptor).outcome with
    | error failure => exact ⟨failure, rfl⟩
    | ok opened =>
      obtain ⟨_, M, m, p, -, hopening, hread, hadmitted⟩ :=
        ((hlife connection ⟨16, 1, 9, hinfo⟩).returned opened).1 houtcome
      cases hopening
      rw [hinfo] at hread
      cases hread
      refine absurd hadmitted ?_
      rw [not_le, Version.triple_lt_iff]
      omega
  refine ⟨hexpected, hrelease, hreports, ?_, ?_, ?_⟩
  · rw [(hlife (brittleConnection 16 2 0) ⟨16, 2, 0, rfl⟩).returned]
    exact ⟨arguments, 16, 2, 0, harguments, rfl, rfl, hle⟩
  · obtain ⟨failure, houtcome⟩ := hfails (brittleConnection 16 1 9) rfl
    obtain ⟨-, hclosing, -⟩ := (hlife (brittleConnection 16 1 9) ⟨16, 1, 9, rfl⟩).closed
      arguments _ failure harguments rfl houtcome nofun
    rw [houtcome, hclosing _ rfl]
  · obtain ⟨failure, houtcome⟩ := hfails (plainConnection 16 1 9) rfl
    obtain ⟨hcloses, -, hreason⟩ := (hlife (plainConnection 16 1 9) ⟨16, 1, 9, rfl⟩).closed
      arguments _ failure harguments rfl houtcome nofun
    have hwritten : anyOversized (refusalParts candidateDescriptor 16 1 9 16 2 0) = false := by
      decide +kernel
    obtain ⟨-, htold⟩ := (hreason rfl).2 16 1 9 rfl
    rw [houtcome, htold ["rc", "1"] ["deb"] rfl hwritten]
    exact ⟨rfl, hcloses⟩

/-- A connection of which asking for the version is cancelled. -/
def cancelledConnection : Connection := ⟨.error .cancelled, .ok ()⟩

/-- A version with a number that is not written. -/
def distantVersion : Version := .ofNumbers (Nat.pow 10 Numeral.digitLimit : Nat) 0 0 [] []

/-- A version with an identifier that is no text. -/
def misnamedVersion : Version := ⟨.int 16, .int 0, .int 0, [.int 1], []⟩

/-- A descriptor of the standard target that expects a version. -/
def expectingDescriptor (expected : Version) : Descriptor :=
  .ofTarget "db.internal" 5432 "app" "admin" expected

/-- Whatever server is too old for a version, it is refused for that. -/
def IsToldTooOld (expected : Version) : Prop :=
  ∀ (d : Descriptor) (major minor patch M m p : Int) (failure : Failure),
    d.expectedVersion = .version expected →
    expected.release = [.int major, .int minor, .int patch] →
    triple M m p < triple major minor patch →
    (connect .permissive (fun _ => .ok (plainConnection M m p)) d).outcome = .error failure →
    failure.kind = .versionMismatch

/-- A version that cannot be written is not told to be too new for a server that is too old. -/
theorem not_isToldTooOld {expected : Version} {major minor patch M m p : Int}
    (hrelease : expected.release = [.int major, .int minor, .int patch])
    (hlt : triple M m p < triple major minor patch)
    (hkind : (tooOld (.text "db.internal") (.int 5432) (.version expected)
      (.version (.ofNumbers M m p [] []))).kind ≠ .versionMismatch) : ¬ IsToldTooOld expected := by
  intro h
  have hexpected : (expectingDescriptor expected).expectedVersion = .version expected := rfl
  obtain ⟨arguments, harguments⟩ : ∃ arguments,
      Client.arguments .permissive (expectingDescriptor expected) = .ok arguments := ⟨_, rfl⟩
  have hcheck : checkVersion (expectingDescriptor expected) (plainConnection M m p) = _ :=
    checkVersion_of_lt hexpected hrelease rfl hlt
  have hattempt : connect .permissive (fun _ => .ok (plainConnection M m p))
      (expectingDescriptor expected) = _ := connect_of_refused harguments rfl hcheck
  have hrefused (reason : Failure) : refuse (plainConnection M m p) reason = reason := rfl
  rw [isCancellation_tooOld, if_neg Bool.false_ne_true, hrefused] at hattempt
  have houtcome := congrArg Attempt.outcome hattempt
  exact hkind (h _ _ _ _ _ _ _ _ hexpected hrelease hlt houtcome)

/-- A server that is too old may be refused for another reason, as the words for it cannot be
written: for a number or for an identifier of the expected version.  And a connection that is not
returned may stay open, as asking for the version was cancelled. -/
theorem lifecycle_exceptions :
    ¬ IsToldTooOld distantVersion ∧ ¬ IsToldTooOld misnamedVersion ∧
    ¬ ∀ (d : Descriptor) (arguments : ConnectArguments) (connection : Connection)
        (failure : Failure),
      Client.arguments .permissive d = .ok arguments →
      (connect .permissive (fun _ => .ok connection) d).outcome = .error failure →
      (connect .permissive (fun _ => .ok connection) d).closes = 1 := by
  refine ⟨?_, ?_, ?_⟩
  · have hpower : (15 : Int) < (Nat.pow 10 Numeral.digitLimit : Nat) := by
      exact_mod_cast (by decide +kernel : 15 < Nat.pow 10 Numeral.digitLimit)
    have hlt : triple 15 0 0 < triple (Nat.pow 10 Numeral.digitLimit : Nat) 0 0 :=
      Version.triple_lt_iff.2 (.inl hpower)
    exact not_isToldTooOld rfl hlt (by decide +kernel)
  · have hlt : triple 15 0 0 < triple 16 0 0 := Version.triple_lt_iff.2 (.inl (by decide))
    exact not_isToldTooOld rfl hlt (by decide +kernel)
  · intro h
    obtain ⟨arguments, harguments⟩ : ∃ arguments,
        Client.arguments .permissive candidateDescriptor = .ok arguments := ⟨_, rfl⟩
    have hcloses := h candidateDescriptor arguments cancelledConnection .cancelled harguments rfl
    cases hcloses

end Client

end PostgresAccess
