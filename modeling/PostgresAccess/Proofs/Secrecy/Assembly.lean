import PostgresAccess.Client
import PostgresAccess.Proofs.Assembly.Course
import PostgresAccess.Proofs.Kind
import PostgresAccess.Proofs.Result

/-!
# What an assembling tells about the secret

Two assemblings are compared that differ only in the secret: in the static password
(`Settings.AlikeButSecret`), or in what a helper printed (`Reply.AlikeButSecret`).  The secret is a
text that is not empty in both, because the mask of a password shows whether there is one.  The two
report the same notices and calls, and either the same failure or descriptors that differ in the
password alone (`assemble_alike`).  What is made of a descriptor besides the password is then the
same as well: its two renderings, and the arguments of the driver.
-/

namespace PostgresAccess

/-- Two values that nothing but the password may tell apart: the same value, or two texts of which
neither is empty. -/
def Value.AlikeAsSecret (v w : Value) : Prop := v = w ∨ (v.IsNonEmptyText ∧ w.IsNonEmptyText)

/-- Settings that differ in the static password at most. -/
structure Settings.AlikeButSecret (s t : Settings) : Prop where
  others : t = { s with password := t.password }
  secret : s.password.AlikeAsSecret t.password

/-- Replies that differ in the password that they supply at most. -/
structure Reply.AlikeButSecret (r r' : Reply) : Prop where
  notices : r.notices = r'.notices
  outcome : Result.Alike
    (fun output output' => Value.AlikeAsSecret (.text (Assembly.stripLineEnd output))
      (.text (Assembly.stripLineEnd output'))) r.outcome r'.outcome

/-- Descriptors that differ in the password at most. -/
structure Descriptor.AlikeButSecret (d e : Descriptor) : Prop where
  others : e = { d with password := e.password }
  secret : d.password.AlikeAsSecret e.password

/-- Reports that differ in the password of the descriptor at most. -/
structure Report.AlikeButSecret (r r' : Report) : Prop where
  notices : r.notices = r'.notices
  calls : r.calls = r'.calls
  outcome : Result.Alike Descriptor.AlikeButSecret r.outcome r'.outcome

/-- Arguments that differ in the password at most, which is there in both or in none. -/
structure ConnectArguments.AlikeButSecret (a b : ConnectArguments) : Prop where
  others : b = { a with password := b.password }
  secret : a.password.isSome = b.password.isSome

namespace Value.AlikeAsSecret

variable {v w : Value}

theorem isFilled (h : v.AlikeAsSecret w) : v.isFilled = w.isFilled := by
  obtain rfl | ⟨⟨t, rfl, ht⟩, u, rfl, hu⟩ := h
  · rfl
  · show (t != "") = (u != "")
    rw [bne_iff_ne.2 ht, bne_iff_ne.2 hu]

end Value.AlikeAsSecret

/-! ## Replies -/

section Replies

variable {system system' : System} {call : HelperCall} {output output' : String}

theorem Execution.terminationNotices_of_ok {x : Execution} {charset : Text.Charset}
    (h : x.outcome? charset call = some (.ok output)) (process : Nat) :
    x.terminationNotices process = [] := by
  unfold outcome? at h
  split at h
  · simp only [terminationNotices, *]
  · cases h
  · cases h
  · cases h
  · cases h

/-- Where a call has an output, nothing was noticed but the call. -/
theorem HelperCall.notices_of_ok {charset : Text.Charset} {process : Nat}
    {events : List HelperEvent} (h : (call.reply charset process events).outcome = .ok output) :
    (call.reply charset process events).notices = [call.notice] := by
  simp only [reply, awaited?] at h ⊢
  cases hcheck : checkTimeout call.timeout with
  | error failure => rfl
  | ok _ =>
    rw [hcheck] at h
    cases houtcome : (Execution.run events).outcome? charset call with
    | none =>
      simp only [houtcome] at h
      cases h
    | some result =>
      simp only [houtcome, Option.getD_some] at h
      simp only [Execution.terminationNotices_of_ok (h ▸ houtcome)]

theorem System.notices_of_ok (h : (system.runner call).outcome = .ok output) :
    (system.runner call).notices = [call.notice] := by
  unfold System.runner at h ⊢
  split at h
  · cases h
  · exact HelperCall.notices_of_ok h

/-- The replies to a call that has an output in both are told apart by the output alone. -/
theorem System.runner_alike (h : (system.runner call).outcome = .ok output)
    (h' : (system'.runner call).outcome = .ok output')
    (hsecret : Value.AlikeAsSecret (.text (Assembly.stripLineEnd output))
      (.text (Assembly.stripLineEnd output'))) :
    (system.runner call).AlikeButSecret (system'.runner call) where
  notices := by rw [notices_of_ok h, notices_of_ok h']
  outcome := by
    rw [h, h']
    exact .ok hsecret

end Replies

/-! ## Assembling -/

namespace Assembly

variable {s t : Settings}

/-- The target, and what is reported about it, does not depend on the secret. -/
theorem targetOf_alike (allocator : Tunnel.Allocator) (h : s.AlikeButSecret t) :
    targetOf allocator t = targetOf allocator s := by
  rw [h.others]
  rfl

theorem deprecationNotices_alike (h : s.AlikeButSecret t) :
    deprecationNotices t = deprecationNotices s := by
  rw [h.others]
  rfl

theorem jumphost_alike (h : s.AlikeButSecret t) : t.jumphost = s.jumphost := by
  rw [h.others]

/-- Sources of passwords that are alike: the same helper, or passwords that are. -/
inductive PasswordSource.AlikeButSecret : PasswordSource → PasswordSource → Prop
  | given {p q : Value} (h : p.AlikeAsSecret q) : AlikeButSecret (.given p) (.given q)
  | helper (call : HelperCall) : AlikeButSecret (.helper call) (.helper call)

theorem PasswordSource.AlikeButSecret.refl (source : PasswordSource) :
    source.AlikeButSecret source := by
  cases source with
  | given p => exact .given (.inl rfl)
  | helper call => exact .helper call

theorem passwordSource_of_isNonEmptyText (timeout : Value) (h : s.password.IsNonEmptyText) :
    passwordSource timeout s = .ok (.given s.password) := by
  obtain ⟨t, ht, hne⟩ := h
  have hset : s.password ≠ .null := by
    rw [ht]
    nofun
  have hfilled : s.password.isFilled = true := by
    rw [ht]
    simpa [Value.isFilled] using hne
  rw [passwordSource_of_set timeout hset, if_pos hfilled]

theorem passwordSource_alike (timeout : Value) (h : s.AlikeButSecret t) :
    Result.Alike PasswordSource.AlikeButSecret (passwordSource timeout s)
      (passwordSource timeout t) := by
  obtain heq | ⟨hs, ht⟩ := h.secret
  · have hsame : t = s := by
      rw [h.others, ← heq]
    rw [hsame]
    exact .refl PasswordSource.AlikeButSecret.refl _
  · rw [passwordSource_of_isNonEmptyText timeout hs, passwordSource_of_isNonEmptyText timeout ht]
    exact .ok (.given (.inr ⟨hs, ht⟩))

/-- Whether a descriptor is put together does not depend on its password, and nor does the rest of
it. -/
theorem describe_alike (assembler : Assembler) (target : Target) {p q : Value}
    (h : s.AlikeButSecret t) (hsecret : p.AlikeAsSecret q) :
    Result.Alike Descriptor.AlikeButSecret (describe assembler s target p)
      (describe assembler t target q) := by
  rw [h.others]
  refine .bind (R := Eq) (.refl (fun _ => rfl) _) ?_
  rintro certificate _ rfl
  refine .bind (R := Eq) (.refl (fun _ => rfl) _) ?_
  rintro database _ rfl
  refine .bind (R := Eq) (.refl (fun _ => rfl) _) ?_
  rintro username _ rfl
  exact .ok ⟨rfl, hsecret⟩

theorem assembledNotice_alike {d e : Descriptor} (h : d.AlikeButSecret e) :
    assembledNotice e = assembledNotice d := by
  rw [h.others]
  rfl

theorem complete_alike (assembler : Assembler) (target : Target) {p q : Value}
    (notices : List Notice) (calls : List HelperCall) (h : s.AlikeButSecret t)
    (hsecret : p.AlikeAsSecret q) :
    (complete assembler s target p notices calls).AlikeButSecret
      (complete assembler t target q notices calls) := by
  have hd := describe_alike assembler target h hsecret
  unfold complete
  generalize describe assembler s target p = x at hd ⊢
  generalize describe assembler t target q = y at hd ⊢
  cases hd with
  | error failure => exact ⟨rfl, rfl, .error failure⟩
  | ok hd => exact ⟨by simp only [assembledNotice_alike hd], rfl, .ok hd⟩

end Assembly

open Assembly in
/-- Assembling two settings that differ in the secret at most, with helpers whose replies do, tells
them apart by the password of the descriptor at most. -/
theorem assemble_alike (assembler : Assembler) {runner runner' : Runner} {s t : Settings}
    (h : s.AlikeButSecret t)
    (hreplies : ∀ call ∈ (assemble assembler runner s).calls,
      (runner call).AlikeButSecret (runner' call)) :
    (assemble assembler runner s).AlikeButSecret (assemble assembler runner' t) := by
  have htarget := targetOf_alike assembler.allocator h
  have hnotices := deprecationNotices_alike h
  have hjumphost := jumphost_alike h
  have hsource := passwordSource_alike assembler.timeout h
  cases course assembler runner s with
  | unresolved failure hunresolved hreport =>
    rw [hreport, assemble, htarget, hunresolved, hnotices]
    exact ⟨rfl, rfl, .error failure⟩
  | unsourced target failure hresolved hunsourced hreport =>
    rw [hunsourced] at hsource
    rw [hreport, assemble, htarget, hresolved, hsource.eq_error, hnotices, hjumphost]
    exact ⟨rfl, rfl, .error failure⟩
  | given target password hresolved hgiven hreport =>
    rw [hgiven] at hsource
    obtain ⟨source, hsource', ⟨hsecret⟩⟩ := hsource.exists_ok
    rw [hreport, assemble, htarget, hresolved, hsource', hnotices, hjumphost]
    exact complete_alike assembler target _ _ h hsecret
  -- the helper is called alike in both, so what it replies there is alike
  | refused target call failure hresolved hhelper hreply hreport =>
    rw [hhelper] at hsource
    obtain ⟨source, hsource', ⟨⟩⟩ := hsource.exists_ok
    obtain ⟨hsame, hreplied⟩ := hreplies call (by rw [hreport]; exact .head _)
    rw [hreply] at hreplied
    rw [hreport, assemble, htarget, hresolved, hsource', hnotices, hjumphost, hsame]
    simp only [hreplied.eq_error]
    exact ⟨rfl, rfl, .error failure⟩
  | supplied target call output hresolved hhelper hreply hreport =>
    rw [hhelper] at hsource
    obtain ⟨source, hsource', ⟨⟩⟩ := hsource.exists_ok
    obtain ⟨hsame, hreplied⟩ := hreplies call (by rw [hreport, complete_calls]; exact .head _)
    rw [hreply] at hreplied
    obtain ⟨output', hreply', hsecret⟩ := hreplied.exists_ok
    rw [hreport, assemble, htarget, hresolved, hsource', hnotices, hjumphost, hsame]
    simp only [hreply']
    exact complete_alike assembler target _ _ h hsecret

/-! ## What is made of a descriptor -/

namespace Descriptor.AlikeButSecret

variable {d e : Descriptor}

theorem literal (h : d.AlikeButSecret e) : d.literal = e.literal := by
  rw [h.others]
  rfl

/-- The mask shows whether there is a password, and nothing else of it. -/
theorem redacted (h : d.AlikeButSecret e) : d.redacted = e.redacted := by
  have hmask : d.maskedPassword = e.maskedPassword := by
    unfold maskedPassword
    rw [h.secret.isFilled]
  unfold Descriptor.redacted
  rw [hmask, h.others]

theorem argumentNotices (h : d.AlikeButSecret e) :
    Client.argumentNotices d = Client.argumentNotices e := by
  rw [h.others]
  rfl

/-- The arguments of the driver hold the password and nothing else that depends on it. -/
theorem arguments (h : d.AlikeButSecret e) (library : Tls.Library) :
    Result.Alike ConnectArguments.AlikeButSecret (Client.arguments library d)
      (Client.arguments library e) := by
  have hfilled := h.secret.isFilled
  rw [h.others] at hfilled ⊢
  refine .bind (R := Eq) (.refl (fun _ => rfl) _) ?_
  rintro timeout _ rfl
  refine .bind (R := Eq) (.refl (fun _ => rfl) _) ?_
  rintro tls _ rfl
  refine .ok ⟨rfl, ?_⟩
  simp only [hfilled]
  split <;> rfl

end Descriptor.AlikeButSecret

end PostgresAccess
