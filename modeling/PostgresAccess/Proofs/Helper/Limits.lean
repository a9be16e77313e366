import PostgresAccess.Helper.Execution

/-!
# Limits of time

A call may limit the time of its program.  A limit is looked at once the program was started:
`checkTimeout_eq_ok` says which ones can be measured.  With such a limit the events of the run
decide what comes of the call (`awaited?_of_isLimit`); any other limit is refused at once, and the
program that was started is not awaited (`awaited?_of_not_isLimit`).
-/

namespace PostgresAccess

open Text (Charset)

/-- A limit that can be measured: none, or a number of seconds that is not beyond all floating-point
numbers. -/
def Value.IsLimit (v : Value) : Prop :=
  v = .null ∨ v.number?.isSome = true ∧ isImmeasurable v = false

theorem related_zero (v : Value) :
    (∃ b, v.related .atMost (.int 0) = .ok b ∧ v.number?.isSome = true) ∨
    (∃ fault, v.related .atMost (.int 0) = .error fault ∧ v.number?.isSome = false) := by
  cases v with
  | bool _ | int _ | real _ => exact .inl ⟨_, rfl, rfl⟩
  | null | text _ | list _ | table _ | date _ | time _ | dateTime _ => exact .inr ⟨_, rfl, rfl⟩

theorem checkTimeout_cases (v : Value) :
    (checkTimeout v = .ok () ∧ v.IsLimit) ∨
    (¬ v.IsLimit ∧ (checkTimeout v = .error .immeasurable ∨
      ∃ fault, checkTimeout v = .error (.value fault))) := by
  by_cases hnull : v = .null
  · subst hnull
    exact .inl ⟨rfl, .inl rfl⟩
  -- the comparison with zero comes first, so a limit that is no number is told for that
  · have hcheck : checkTimeout v =
        (v.related .atMost (.int 0)).mapError Failure.value >>= fun _ =>
          if isImmeasurable v then .error .immeasurable else pure () := by
      cases v <;> first | rfl | exact absurd rfl hnull
    rw [hcheck, Value.IsLimit]
    rcases related_zero v with ⟨b, hb, hnumber⟩ | ⟨fault, hfault, hnumber⟩
    · by_cases himmeasurable : isImmeasurable v = true
      · refine .inr ⟨by simp [hnull, himmeasurable], .inl ?_⟩
        rw [hb, if_pos himmeasurable]
        rfl
      · refine .inl ⟨?_, .inr ⟨hnumber, by simpa using himmeasurable⟩⟩
        rw [hb, if_neg himmeasurable]
        rfl
    · refine .inr ⟨by simp [hnull, hnumber], .inr ⟨fault, ?_⟩⟩
      rw [hfault]
      rfl

theorem checkTimeout_eq_ok {v : Value} : checkTimeout v = .ok () ↔ v.IsLimit := by
  rcases checkTimeout_cases v with ⟨hok, hlimit⟩ | ⟨hnone, herror | ⟨fault, herror⟩⟩
  · exact iff_of_true hok hlimit
  · exact iff_of_false (by simp [herror]) hnone
  · exact iff_of_false (by simp [herror]) hnone

namespace HelperCall

variable {call : HelperCall}

theorem awaited?_of_isLimit (hlimit : call.timeout.IsLimit) (charset : Charset)
    (events : List HelperEvent) :
    call.awaited? charset events = (Execution.run events).outcome? charset call := by
  simp only [awaited?, checkTimeout_eq_ok.2 hlimit]

/-- A call whose limit is refused fails in the same way whatever its program does. -/
theorem awaited?_of_not_isLimit (hlimit : ¬ call.timeout.IsLimit) :
    ∃ failure, (failure = .immeasurable ∨ ∃ fault, failure = .value fault) ∧
      ∀ charset events, call.awaited? charset events = some (.error failure) := by
  obtain ⟨-, hmeasured⟩ | ⟨-, himmeasurable | ⟨fault, hfault⟩⟩ := checkTimeout_cases call.timeout
  · exact absurd hmeasured hlimit
  · exact ⟨_, .inl rfl, fun _ _ => by simp only [awaited?, himmeasurable]⟩
  · exact ⟨_, .inr ⟨fault, rfl⟩, fun _ _ => by simp only [awaited?, hfault]⟩

/-- The limit of a number of seconds that no floating-point number reaches is refused, although the
program was started. -/
theorem awaited?_of_isImmeasurable (h : isImmeasurable call.timeout = true) (charset : Charset)
    (events : List HelperEvent) : call.awaited? charset events = some (.error .immeasurable) := by
  obtain ⟨n, hn⟩ : ∃ n, call.timeout = .int n := by
    cases hvalue : call.timeout <;> first | exact ⟨_, rfl⟩ | simp [hvalue, isImmeasurable] at h
  have hcheck : checkTimeout call.timeout = .error .immeasurable := by
    rw [hn] at h ⊢
    have hcompared : checkTimeout (.int n) =
        ((Value.int n).related .atMost (.int 0)).mapError Failure.value >>= fun _ =>
          if isImmeasurable (.int n) then .error .immeasurable else pure () := rfl
    rw [hcompared, if_pos h]
    rfl
  simp only [awaited?, hcheck]

example (charset : Charset) (events : List HelperEvent) :
    HelperCall.awaited? ⟨"sleep", ["1"], .int (Nat.pow 10 400)⟩ charset events =
      some (.error .immeasurable) :=
  awaited?_of_isImmeasurable (by decide +kernel) charset events

end HelperCall

end PostgresAccess
