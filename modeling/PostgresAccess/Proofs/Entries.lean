import Mathlib.Data.List.Nodup
import PostgresAccess.Value

/-!
# Looking up keys

A key is looked up in a table from the front.  In a table that has each key once, the order of the
entries does not matter: what is found is the value of the only entry of the key
(`Entries.get?_eq_some_iff`).
-/

namespace PostgresAccess.Entries

variable {entries entries' : Entries} {key : String} {v : Value}

theorem get?_cons (k key : String) (v : Value) (rest : Entries) :
    Entries.get? ((k, v) :: rest) key = if k = key then some v else rest.get? key := by
  unfold Entries.get?
  rw [List.find?_cons]
  by_cases hk : k = key
  · simp [hk]
  · have hdifferent : (k == key) = false := by simpa using hk
    simp only [hdifferent, if_neg hk]

theorem get?_eq_none_iff : entries.get? key = none ↔ key ∉ entries.map Prod.fst := by
  induction entries with
  | nil => exact ⟨nofun, fun _ => rfl⟩
  | cons entry rest ih =>
    obtain ⟨k, w⟩ := entry
    rw [get?_cons, List.map_cons, List.mem_cons, not_or, ← ih]
    by_cases hk : k = key
    · simp [hk]
    · simp [hk, Ne.symm hk]

theorem mem_of_get? (h : entries.get? key = some v) : (key, v) ∈ entries := by
  induction entries with
  | nil => cases h
  | cons entry rest ih =>
    obtain ⟨k, w⟩ := entry
    rw [get?_cons] at h
    split at h
    · rename_i hk
      cases h
      rw [hk]
      exact .head _
    · exact .tail _ (ih h)

/-- In a table that has each key once, a key has the value of its only entry. -/
theorem get?_eq_some_iff (hdistinct : (entries.map Prod.fst).Nodup) :
    entries.get? key = some v ↔ (key, v) ∈ entries := by
  refine ⟨mem_of_get?, fun h => ?_⟩
  cases hfound : entries.get? key with
  | none => exact absurd (List.mem_map_of_mem h) (get?_eq_none_iff.1 hfound)
  | some w =>
    have hsame := List.inj_on_of_nodup_map hdistinct (mem_of_get? hfound) h rfl
    cases hsame
    rfl

/-- What is found for a key does not depend on the order of the entries. -/
theorem get?_of_perm (hdistinct : (entries.map Prod.fst).Nodup) (hperm : entries'.Perm entries) :
    entries'.get? key = entries.get? key := by
  have hdistinct' : (entries'.map Prod.fst).Nodup := (hperm.map Prod.fst).nodup_iff.2 hdistinct
  ext v
  rw [get?_eq_some_iff hdistinct', get?_eq_some_iff hdistinct, hperm.mem_iff]

end PostgresAccess.Entries
