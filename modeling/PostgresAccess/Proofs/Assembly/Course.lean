import PostgresAccess.Assembly
import PostgresAccess.Proofs.Kind
import PostgresAccess.Proofs.Result
import PostgresAccess.Proofs.Words

/-!
# The courses of an assembling

Assembling settings takes one of five courses: the target is not resolved; no source of a password
is found; the password is known without a helper; the helper fails; the helper prints the password.
`Course` names them, each with the report that it ends in, and `course` says that there is no other;
the descriptor that one of them ends in is that of the target (`resolved_of_outcome`).  What a
course asks of the settings is said by one fact for each part of an assembling: when the target is
resolved (`targetOf_eq_ok`), when a helper is to be called (`passwordSource_eq_helper`), and when
the descriptor is put together (`describe_eq_ok`).
-/

namespace PostgresAccess

/-! ## Allocators -/

/-- An allocator has a tunnel port for a connection with some settings: its seed can be written, or
none is asked for. -/
def Tunnel.Allocator.Serves (allocator : Tunnel.Allocator) (s : Settings) : Prop :=
  s.jumphost.isFilled = true → allocator.seed.hasOversized = false

/-- The clock gives a seed that can be written. -/
theorem Tunnel.Allocator.serves_ofWord (n : UInt64) (s : Settings) : (ofWord n).Serves s := by
  intro
  have word : (n.toNat : Int).natAbs < Nat.pow 10 20 := Nat.lt_trans n.toNat_lt (by decide)
  exact Numeral.isOversized_of_lt word (by decide)

namespace Assembly

open Result

/-! ## The target -/

theorem require_eq_ok {f : Field} {v w : Value} :
    require f v = .ok w ↔ isMissing v = false ∧ v = w := by
  cases h : isMissing v <;> simp [require, h]

theorem isMissing_of_isNonEmptyText {v : Value} (h : v.IsNonEmptyText) : isMissing v = false := by
  obtain ⟨t, rfl, ht⟩ := h
  simpa [isMissing] using ht

theorem isMissing_eq_false_iff {v : Value} (h : v.IsOptionalText) :
    isMissing v = false ↔ v.IsNonEmptyText := by
  obtain rfl | ⟨t, rfl⟩ := h <;> simp [isMissing, Value.IsNonEmptyText]

theorem resolveVersion_eq_ok {v : Value} {version : Version} :
    resolveVersion (.value v) = .ok version ↔ ∃ t, v = .text t ∧ Version.parse t = .ok version := by
  rw [resolveVersion, mapError_eq_ok]
  cases v <;> simp [Version.ofOperand]

theorem tunnelPort?_eq_ok {allocator : Tunnel.Allocator} {host port jumphost : Value}
    {entry : Option Nat} :
    tunnelPort? allocator host port jumphost = .ok entry ↔
      if jumphost.isFilled then ∃ n, Tunnel.port allocator host port = .ok n ∧ some n = entry
      else none = entry := by
  unfold tunnelPort?
  split
  · simp only [map_eq_ok, mapError_eq_ok]
  · simp only [Except.ok.injEq]

/-- The port of a tunnel is drawn if the seed and the target can be written. -/
theorem tunnelPort?_of_serves {allocator : Tunnel.Allocator} {s : Settings} {host port : Value}
    (hserves : allocator.Serves s) (hhost : host.hasOversized = false)
    (hport : port.hasOversized = false) :
    tunnelPort? allocator host port s.jumphost = .ok (if s.jumphost.isFilled then
      some (Tunnel.draw (Tunnel.seedText allocator.seed host port)) else none) := by
  unfold tunnelPort? Tunnel.port
  cases hfilled : s.jumphost.isFilled with
  | false => rfl
  | true =>
    simp only [anyOversized, hserves hfilled, hhost, hport]
    rfl

theorem tunnelPort?_of_not_serves {allocator : Tunnel.Allocator} {s : Settings}
    (hserves : ¬ allocator.Serves s) (host port : Value) :
    tunnelPort? allocator host port s.jumphost = .error (.number .oversized) := by
  obtain ⟨hfilled, hseed⟩ := Classical.not_imp.1 hserves
  rw [Bool.not_eq_false] at hseed
  simp only [tunnelPort?, Tunnel.port, hfilled, anyOversized, hseed, Bool.true_or]
  rfl

theorem hasOversized_port {n : Int} (low : 1 ≤ n) (high : n ≤ 65535) :
    (Value.int n).hasOversized = false := by
  have few : n.natAbs < Nat.pow 10 5 := by
    have : Nat.pow 10 5 = 100000 := by decide
    omega
  exact Numeral.isOversized_of_lt few (by decide)

/-- A tunnel has a port exactly when there is a jump host. -/
theorem isSome_iff_of_tunnelPort? {allocator : Tunnel.Allocator} {host port jumphost : Value}
    {entry : Option Nat} (h : tunnelPort? allocator host port jumphost = .ok entry) :
    entry ≠ none ↔ jumphost.isFilled = true := by
  rw [tunnelPort?_eq_ok] at h
  split at h
  · rename_i hfilled
    obtain ⟨n, -, rfl⟩ := h
    simp [hfilled]
  · rename_i hfilled
    simp [← h, hfilled]

theorem bounds_of_tunnelPort? {allocator : Tunnel.Allocator} {host port jumphost : Value}
    {n : Nat} (h : tunnelPort? allocator host port jumphost = .ok (some n)) :
    1024 ≤ n ∧ n ≤ 65535 := by
  rw [tunnelPort?_eq_ok] at h
  split at h
  · obtain ⟨m, hm, heq⟩ := h
    cases heq
    exact Tunnel.port_bounds hm
  · cases h

/-- A target is resolved when the expected version reads as one, a host and a port are named, and
the tunnel has a port. -/
theorem targetOf_eq_ok {allocator : Tunnel.Allocator} {s : Settings} {target : Target} :
    targetOf allocator s = .ok target ↔
      (∃ t, s.expectedVersion = .text t ∧ Version.parse t = .ok target.version) ∧
      (isMissing s.host = false ∧ s.host = target.host) ∧
      (isMissing s.port = false ∧ s.port = target.port) ∧
      tunnelPort? allocator target.host target.port s.jumphost = .ok target.tunneledPort := by
  unfold targetOf resolveTarget
  simp only [bind_eq_ok, resolveVersion_eq_ok, require_eq_ok]
  constructor
  · rintro ⟨version, hversion, host, hhost, port, hport, entry, hentry, h⟩
    cases h
    exact ⟨hversion, hhost, hport, hentry⟩
  · rintro ⟨hversion, hhost, hport, hentry⟩
    exact ⟨_, hversion, _, hhost, _, hport, _, hentry, rfl⟩

/-! ## The source of the password -/

theorem isPasswordSet_eq_true {s : Settings} : s.isPasswordSet = true ↔ s.password ≠ .null := by
  unfold Settings.isPasswordSet
  cases s.password <;> simp [Value.isNull]

theorem isBlankText_eq_false {line : String} :
    isBlankText line = false ↔ ∃ c ∈ line.toList, Text.isBlank c = false := by
  rw [isBlankText, List.isEmpty_eq_false_iff, Ne, Text.trim, Text.trimBy_eq_nil_iff]
  simp

/-- A password that is given, even an empty one, is its own source. -/
theorem passwordSource_of_set (timeout : Value) {s : Settings} (h : s.password ≠ .null) :
    passwordSource timeout s =
      .ok (.given (if s.password.isFilled then s.password else .text "")) := by
  rw [passwordSource, if_pos (isPasswordSet_eq_true.2 h)]

theorem passwordSource_of_line (timeout : Value) {s : Settings} {line : String}
    (h : s.password = .null) (hline : s.passwordCommand = .text line) :
    passwordSource timeout s = helperOfLine timeout line := by
  rw [passwordSource, if_neg (fun hset => isPasswordSet_eq_true.1 hset h), hline]

theorem passwordSource_of_no_line (timeout : Value) {s : Settings}
    (h : s.password = .null) (hline : s.passwordCommand = .null) :
    passwordSource timeout s = .ok (.given (.text "")) := by
  rw [passwordSource, if_neg (fun hset => isPasswordSet_eq_true.1 hset h), hline]
  rfl

theorem helperOfLine_of_isBlank (timeout : Value) {line : String} (h : isBlankText line = true) :
    helperOfLine timeout line = .ok (.given (.text "")) := by
  rw [helperOfLine, if_pos h]

/-- A line that is not blank names a helper by its words, of which there is at least one, or is not
split. -/
theorem helperOfLine_of_not_isBlank (timeout : Value) {line : String}
    (h : isBlankText line = false) :
    (∃ fault, Words.split line = .error fault ∧
      helperOfLine timeout line = .error (.configuration (.unsplit fault))) ∨
    ∃ command arguments, Words.split line = .ok (command :: arguments) ∧
      helperOfLine timeout line = .ok (.helper ⟨command, arguments, timeout⟩) := by
  rw [helperOfLine, if_neg (by simp [h])]
  match hsplit : Words.split line with
  | .error fault => exact .inl ⟨fault, rfl, rfl⟩
  | .ok [] => exact absurd hsplit (Words.split_ne_nil (isBlankText_eq_false.1 h))
  | .ok (command :: arguments) => exact .inr ⟨command, arguments, rfl, rfl⟩

/-! ## The descriptor -/

/-- A descriptor is put together when a certificate is given by its paths, if at all, and a database
and a user are named. -/
theorem describe_eq_ok {assembler : Assembler} {s : Settings} {target : Target}
    {password : Value} {d : Descriptor} :
    describe assembler s target password = .ok d ↔
      ∃ certificate, Certificate.ofContent? s.clientCertificate = .ok certificate ∧
        isMissing s.database = false ∧ isMissing s.username = false ∧
        d = resolved assembler s target certificate password := by
  unfold describe
  simp only [bind_eq_ok, mapError_eq_ok, require_eq_ok]
  constructor
  · rintro ⟨certificate, hcertificate, _, ⟨hdatabase, -⟩, _, ⟨husername, -⟩, h⟩
    cases h
    exact ⟨certificate, hcertificate, hdatabase, husername, rfl⟩
  · rintro ⟨certificate, hcertificate, hdatabase, husername, rfl⟩
    exact ⟨certificate, hcertificate, _, ⟨hdatabase, rfl⟩, _, ⟨husername, rfl⟩, rfl⟩

@[simp] theorem complete_outcome (assembler : Assembler) (s : Settings) (target : Target)
    (password : Value) (notices : List Notice) (calls : List HelperCall) :
    (complete assembler s target password notices calls).outcome =
      describe assembler s target password := by
  unfold complete
  split <;> simp_all

@[simp] theorem complete_calls (assembler : Assembler) (s : Settings) (target : Target)
    (password : Value) (notices : List Notice) (calls : List HelperCall) :
    (complete assembler s target password notices calls).calls = calls := by
  unfold complete
  split <;> rfl

/-! ## Courses -/

/-- The course that an assembling takes, and the report that it ends in. -/
inductive Course (assembler : Assembler) (runner : Runner) (s : Settings) : Prop where
  /-- The target is not resolved. -/
  | unresolved (failure : Failure)
    (htarget : targetOf assembler.allocator s = .error failure)
    (hreport : assemble assembler runner s = ⟨.error failure, deprecationNotices s, []⟩)
  /-- No source of a password is found. -/
  | unsourced (target : Target) (failure : Failure)
    (htarget : targetOf assembler.allocator s = .ok target)
    (hsource : passwordSource assembler.timeout s = .error failure)
    (hreport : assemble assembler runner s =
      ⟨.error failure, deprecationNotices s ++ tunnelNotices s.jumphost target, []⟩)
  /-- The password is known without a helper. -/
  | given (target : Target) (password : Value)
    (htarget : targetOf assembler.allocator s = .ok target)
    (hsource : passwordSource assembler.timeout s = .ok (.given password))
    (hreport : assemble assembler runner s =
      complete assembler s target password
        (deprecationNotices s ++ tunnelNotices s.jumphost target) [])
  /-- The helper fails. -/
  | refused (target : Target) (call : HelperCall) (failure : Failure)
    (htarget : targetOf assembler.allocator s = .ok target)
    (hsource : passwordSource assembler.timeout s = .ok (.helper call))
    (hreply : (runner call).outcome = .error failure)
    (hreport : assemble assembler runner s =
      ⟨.error failure,
        deprecationNotices s ++ tunnelNotices s.jumphost target ++ (runner call).notices, [call]⟩)
  /-- The helper prints the password. -/
  | supplied (target : Target) (call : HelperCall) (output : String)
    (htarget : targetOf assembler.allocator s = .ok target)
    (hsource : passwordSource assembler.timeout s = .ok (.helper call))
    (hreply : (runner call).outcome = .ok output)
    (hreport : assemble assembler runner s =
      complete assembler s target (.text (stripLineEnd output))
        (deprecationNotices s ++ tunnelNotices s.jumphost target ++ (runner call).notices) [call])

/-- Every assembling takes one of the five courses. -/
theorem course (assembler : Assembler) (runner : Runner) (s : Settings) :
    Course assembler runner s := by
  -- the cases are the places at which the assembling may end, in its own order
  cases htarget : targetOf assembler.allocator s with
  | error failure => exact .unresolved failure htarget (by simp only [assemble, htarget])
  | ok target =>
    cases hsource : passwordSource assembler.timeout s with
    | error failure =>
      exact .unsourced target failure htarget hsource (by simp only [assemble, htarget, hsource])
    | ok source =>
      cases source with
      | given password =>
        exact .given target password htarget hsource (by simp only [assemble, htarget, hsource])
      | helper call =>
        cases hreply : (runner call).outcome with
        | error failure =>
          exact .refused target call failure htarget hsource hreply
            (by simp only [assemble, htarget, hsource, hreply])
        | ok output =>
          exact .supplied target call output htarget hsource hreply
            (by simp only [assemble, htarget, hsource, hreply])

/-- Whichever course ends in a descriptor, the descriptor was put together for a resolved target. -/
theorem describe_of_outcome {assembler : Assembler} {runner : Runner} {s : Settings}
    {d : Descriptor} (h : (assemble assembler runner s).outcome = .ok d) :
    ∃ target password, targetOf assembler.allocator s = .ok target ∧
      describe assembler s target password = .ok d := by
  cases course assembler runner s with
  | unresolved failure htarget hreport =>
    rw [hreport] at h
    cases h
  | unsourced target failure htarget hsource hreport =>
    rw [hreport] at h
    cases h
  | given target password htarget hsource hreport =>
    rw [hreport, complete_outcome] at h
    exact ⟨target, password, htarget, h⟩
  | refused target call failure htarget hsource hreply hreport =>
    rw [hreport] at h
    cases h
  | supplied target call output htarget hsource hreply hreport =>
    rw [hreport, complete_outcome] at h
    exact ⟨target, _, htarget, h⟩

theorem resolved_of_outcome {assembler : Assembler} {runner : Runner} {s : Settings}
    {d : Descriptor} (h : (assemble assembler runner s).outcome = .ok d) :
    ∃ target certificate password, targetOf assembler.allocator s = .ok target ∧
      d = resolved assembler s target certificate password := by
  obtain ⟨target, password, htarget, hd⟩ := describe_of_outcome h
  obtain ⟨certificate, -, -, -, rfl⟩ := describe_eq_ok.1 hd
  exact ⟨target, certificate, password, htarget, rfl⟩

end Assembly

end PostgresAccess
