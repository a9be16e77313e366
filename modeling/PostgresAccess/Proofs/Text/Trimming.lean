import Mathlib.Data.List.TakeWhile
import PostgresAccess.Text.Blank

/-!
# What trimming takes away

Trimming takes away characters of a class at both ends of a text and nothing else
(`exists_blanks`), so the blanks around a text that holds none are exactly what is lost of it
(`trimBy_append`).
-/

namespace PostgresAccess.Text

variable {blank : Char → Bool}

theorem isBlank_eq_false {c : Char} (low : 33 ≤ c.toNat) (high : c.toNat < 128) :
    isBlank c = false := by
  simp only [isBlank, isSpace, Bool.or_eq_false_iff, Bool.and_eq_false_iff, beq_eq_false_iff_ne,
    decide_eq_false_iff_not]
  omega

theorem dropWhile_eq_self {cs : List Char} (h : ∀ c ∈ cs, blank c = false) :
    cs.dropWhile blank = cs := by
  cases cs with
  | nil => rfl
  | cons c rest => simp [h c (.head _)]

/-- Trimming takes away the blanks around a text that holds none. -/
theorem trimBy_append {before body after : List Char} (hbefore : ∀ c ∈ before, blank c = true)
    (hbody : ∀ c ∈ body, blank c = false) (hafter : ∀ c ∈ after, blank c = true) :
    trimBy blank (before ++ body ++ after) = body := by
  cases body with
  | nil =>
    rw [List.append_nil, trimBy_eq_nil_iff]
    exact List.forall_mem_append.2 ⟨hbefore, hafter⟩
  | cons c rest =>
    have hfront : (before ++ (c :: rest) ++ after).dropWhile blank = (c :: rest) ++ after := by
      rw [List.append_assoc, List.dropWhile_append_of_pos hbefore]
      simp [hbody c (.head _)]
    have hafter' : ∀ d ∈ after.reverse, blank d = true := fun d hd =>
      hafter d (List.mem_reverse.1 hd)
    have hbody' : ∀ d ∈ (c :: rest).reverse, blank d = false := fun d hd =>
      hbody d (List.mem_reverse.1 hd)
    -- the blanks at the end are those at the start of the reversed text
    rw [trimBy, hfront, List.reverse_append, List.dropWhile_append_of_pos hafter',
      dropWhile_eq_self hbody', List.reverse_reverse]

/-- What trimming takes away are blanks at both ends. -/
theorem exists_blanks (blank : Char → Bool) (cs : List Char) :
    ∃ before after, cs = before ++ trimBy blank cs ++ after ∧
      ∀ c ∈ before ++ after, blank c = true := by
  have hfront := List.takeWhile_append_dropWhile (p := blank) (l := cs)
  have hback := List.takeWhile_append_dropWhile (p := blank) (l := (cs.dropWhile blank).reverse)
  refine ⟨cs.takeWhile blank, ((cs.dropWhile blank).reverse.takeWhile blank).reverse, ?_, ?_⟩
  · have hrest : cs.dropWhile blank =
        trimBy blank cs ++ ((cs.dropWhile blank).reverse.takeWhile blank).reverse := by
      rw [trimBy, ← List.reverse_append, hback, List.reverse_reverse]
    rw [List.append_assoc, ← hrest, hfront]
  · intro c hc
    rw [List.mem_append, List.mem_reverse] at hc
    rcases hc with hc | hc
    · exact List.mem_takeWhile_imp hc
    · exact List.mem_takeWhile_imp hc

end PostgresAccess.Text
