import PostgresAccess.Value.Literal

/-!
# Kinds of values

The kinds of values that the fields of settings and descriptors hold: texts that are not empty,
texts that may be missing, and numbers from a bound on.  A text says something when it is not empty,
so `Value.filled` turns a text that may be missing into one that is not empty or missing.
-/

namespace PostgresAccess.Value

/-- A text that is not empty. -/
def IsNonEmptyText (v : Value) : Prop := ∃ t, v = .text t ∧ t ≠ ""

/-- A text, or nothing. -/
def IsOptionalText (v : Value) : Prop := v = .null ∨ ∃ t, v = .text t

/-- A text that is not empty, or nothing. -/
def IsNonEmptyOrMissing (v : Value) : Prop := v = .null ∨ v.IsNonEmptyText

/-- A number that is not below a bound. -/
def IsIntegerFrom (low : Int) (v : Value) : Prop := ∃ n, v = .int n ∧ low ≤ n

variable {v : Value}

theorem IsNonEmptyText.hasOversized (h : v.IsNonEmptyText) : v.hasOversized = false := by
  obtain ⟨t, rfl, -⟩ := h
  rfl

theorem text?_eq_some {t : String} : v.text? = some t ↔ v = .text t := by
  cases v <;> simp [text?]

/-- Of the texts that may be missing, those that say something are those that are not empty. -/
theorem IsOptionalText.isFilled_iff (h : v.IsOptionalText) :
    v.isFilled = true ↔ v.IsNonEmptyText := by
  obtain rfl | ⟨t, rfl⟩ := h <;> simp [isFilled, IsNonEmptyText]

theorem IsOptionalText.filled (h : v.IsOptionalText) : v.filled.IsNonEmptyOrMissing := by
  unfold Value.filled
  split
  · rename_i hfilled
    exact .inr (h.isFilled_iff.1 hfilled)
  · exact .inl rfl

theorem filled_ne_null : v.filled ≠ .null ↔ v.isFilled = true := by
  unfold Value.filled
  split
  · rename_i hfilled
    cases v <;> simp_all [isFilled]
  · simp_all

end PostgresAccess.Value
