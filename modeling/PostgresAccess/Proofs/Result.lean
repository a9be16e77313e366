/-!
# Results, read backwards

Reading, checking and assembling are written as sequences of steps of which the first that fails
ends the whole.  The facts of this file take such a sequence apart again: a sequence that gave a
result consists of steps that gave results.  Two sequences are compared step by step with
`Result.Alike`: both fail, and in the same way, or both give results, and these are related.
A sequence that ends in a truth value may answer a question (`Result.Answers`).  All of this
concerns `Except` alone.
-/

namespace PostgresAccess.Result

variable {ε ε' α α' β β' : Type}

/-- A sequence gives a result exactly when both of its parts do. -/
theorem bind_eq_ok {x : Except ε α} {f : α → Except ε β} {b : β} :
    (x >>= f) = .ok b ↔ ∃ a, x = .ok a ∧ f a = .ok b := by
  cases x <;> simp [bind, Except.bind]

theorem map_eq_ok {x : Except ε α} {f : α → β} {b : β} :
    x.map f = .ok b ↔ ∃ a, x = .ok a ∧ f a = b := by
  cases x <;> simp [Except.map]

theorem mapError_eq_ok {x : Except ε α} {f : ε → ε'} {a : α} :
    x.mapError f = .ok a ↔ x = .ok a := by
  cases x with
  | error e => exact ⟨nofun, nofun⟩
  | ok b =>
    constructor
    · intro h
      have hb : (.ok b : Except ε' α) = .ok a := h
      cases hb
      rfl
    · rintro ⟨⟩
      rfl

theorem mapError_eq_error {x : Except ε α} {f : ε → ε'} {e' : ε'} :
    x.mapError f = .error e' ↔ ∃ e, x = .error e ∧ f e = e' := by
  cases x with
  | error e =>
    constructor
    · intro h
      have hfault : (.error (f e) : Except ε' α) = .error e' := h
      cases hfault
      exact ⟨e, rfl, rfl⟩
    · rintro ⟨_, ⟨⟩, rfl⟩
      rfl
  | ok a => exact ⟨nofun, fun ⟨_, hx, _⟩ => nomatch hx⟩

theorem map_eq_error {x : Except ε α} {f : α → β} {e : ε} :
    x.map f = .error e ↔ x = .error e := by
  cases x <;> simp [Except.map]

/-- Two outcomes are alike if they are the same failure or are related results. -/
inductive Alike (R : α → α' → Prop) : Except ε α → Except ε α' → Prop
  | error (e : ε) : Alike R (.error e) (.error e)
  | ok {a : α} {a' : α'} (h : R a a') : Alike R (.ok a) (.ok a')

namespace Alike

variable {R : α → α' → Prop} {S : β → β' → Prop} {x : Except ε α} {y : Except ε α'}

theorem refl {R : α → α → Prop} (h : ∀ a, R a a) (x : Except ε α) : Alike R x x := by
  cases x with
  | error e => exact .error e
  | ok a => exact .ok (h a)

theorem eq_error {e : ε} (h : Alike R (.error e) y) : y = .error e := by
  cases h
  rfl

theorem exists_ok {a : α} (h : Alike R (.ok a) y) : ∃ a', y = .ok a' ∧ R a a' := by
  cases h with
  | ok ha => exact ⟨_, rfl, ha⟩

theorem bind {f : α → Except ε β} {g : α' → Except ε β'} (h : Alike R x y)
    (hstep : ∀ a a', R a a' → Alike S (f a) (g a')) : Alike S (x >>= f) (y >>= g) := by
  obtain e | ha := h
  · exact .error e
  · exact hstep _ _ ha

theorem mapError (f : ε → ε') (h : Alike R x y) : Alike R (x.mapError f) (y.mapError f) := by
  obtain e | ha := h
  · exact .error (f e)
  · exact .ok ha

theorem mono {T : α → α' → Prop} (h : Alike R x y) (hweak : ∀ a a', R a a' → T a a') :
    Alike T x y := by
  obtain e | ha := h
  · exact .error e
  · exact .ok (hweak _ _ ha)

end Alike

/-- A question is answered: there is a result, and it is true exactly if the answer is yes. -/
def Answers (x : Except ε Bool) (p : Prop) : Prop := ∃ answer, x = .ok answer ∧ (answer = true ↔ p)

namespace Answers

variable {x : Except ε Bool} {p q : Prop}

theorem yes (h : p) : Answers (.ok true : Except ε Bool) p := ⟨true, rfl, by simpa using h⟩

theorem no (h : ¬ p) : Answers (.ok false : Except ε Bool) p := ⟨false, rfl, by simpa using h⟩

theorem decide [Decidable p] : Answers (.ok (Decidable.decide p) : Except ε Bool) p :=
  ⟨_, rfl, decide_eq_true_iff⟩

theorem mapError (h : Answers x p) (f : ε → ε') : Answers (x.mapError f) p := by
  obtain ⟨answer, rfl, hanswer⟩ := h
  exact ⟨answer, rfl, hanswer⟩

theorem congr (h : Answers x p) (hiff : p ↔ q) : Answers x q := by
  obtain ⟨answer, hx, hanswer⟩ := h
  exact ⟨answer, hx, hanswer.trans hiff⟩

theorem eq_true_iff (h : Answers x p) : x = .ok true ↔ p := by
  obtain ⟨answer, rfl, hanswer⟩ := h
  rw [← hanswer, Except.ok.injEq]

theorem eq_false_iff (h : Answers x p) : x = .ok false ↔ ¬ p := by
  obtain ⟨answer, rfl, hanswer⟩ := h
  rw [← hanswer, Except.ok.injEq, Bool.not_eq_true]

end Answers

end PostgresAccess.Result
