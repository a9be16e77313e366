import PostgresAccess.Proofs.Entries
import PostgresAccess.Settings.Reading

/-!
# The order of a report

A document is reported on in an order of its own: first the entries of fields, in the order of the
schema, and then the keys that no field has, in the order of the document (`arranged`).  A document
that has each key once is reported on entry by entry, each in one place (`arranged_perm`), and its
own order matters to the second part alone (`known_of_perm`, `unknown_perm`).
-/

namespace PostgresAccess

/-! ## Keys of fields -/

namespace Field

theorem ofName?_name (f : Field) : ofName? f.name = some f := by
  cases f <;> decide

theorem ofName?_eq_some {key : String} {f : Field} : ofName? key = some f ↔ f.name = key := by
  constructor
  · intro h
    simpa using List.find?_some h
  · rintro rfl
    exact ofName?_name f

theorem name_injective : Function.Injective name := by
  intro f g h
  have hfound := ofName?_name f
  rw [h, ofName?_name] at hfound
  cases hfound
  rfl

end Field

namespace Settings

/-! ## Entries in order -/

/-- The entries of fields, in the order of the schema. -/
def known (entries : Entries) : Entries :=
  Field.all.filterMap fun f => (entries.get? f.name).map (f.name, ·)

/-- The entries that no field has, in the order of the document. -/
def unknown (entries : Entries) : Entries :=
  entries.filter fun entry => (Field.ofName? entry.1).isNone

/-- The entries in the order in which they are reported. -/
def arranged (entries : Entries) : Entries := known entries ++ unknown entries

section Arranged

variable {entries entries' : Entries}

theorem mem_known (hdistinct : (entries.map Prod.fst).Nodup) {entry : String × Value} :
    entry ∈ known entries ↔ entry ∈ entries ∧ (Field.ofName? entry.1).isSome = true := by
  obtain ⟨key, v⟩ := entry
  simp only [known, List.mem_filterMap, Option.map_eq_some_iff]
  constructor
  · rintro ⟨f, -, w, hw, heq⟩
    cases heq
    exact ⟨Entries.mem_of_get? hw, by rw [Field.ofName?_name]; rfl⟩
  · rintro ⟨hmem, hfield⟩
    obtain ⟨f, hf⟩ := Option.isSome_iff_exists.1 hfield
    rw [Field.ofName?_eq_some] at hf
    refine ⟨f, f.mem_all, v, ?_, by rw [hf]⟩
    rw [Entries.get?_eq_some_iff hdistinct, hf]
    exact hmem

theorem nodup_known (entries : Entries) : (known entries).Nodup := by
  refine List.Nodup.filterMap ?_ (by decide)
  intro f g entry hf hg
  obtain ⟨v, -, rfl⟩ := Option.map_eq_some_iff.1 hf
  obtain ⟨w, -, heq⟩ := Option.map_eq_some_iff.1 hg
  exact Field.name_injective (congrArg Prod.fst heq).symm

theorem arranged_perm (hdistinct : (entries.map Prod.fst).Nodup) :
    (arranged entries).Perm entries := by
  have hknown : (known entries).Perm
      (entries.filter fun entry => (Field.ofName? entry.1).isSome) := by
    rw [List.perm_ext_iff_of_nodup (nodup_known entries) (hdistinct.of_map.filter _)]
    intro entry
    rw [mem_known hdistinct, List.mem_filter]
  have hunknown : unknown entries =
      entries.filter fun entry => !(Field.ofName? entry.1).isSome := by
    simp [unknown]
  rw [arranged, hunknown]
  exact (hknown.append_right _).trans (List.filter_append_perm _ entries)

/-- The order of the document matters for the keys alone that no field has. -/
theorem known_of_perm (hdistinct : (entries.map Prod.fst).Nodup)
    (hperm : entries'.Perm entries) : known entries' = known entries := by
  unfold known
  simp only [Entries.get?_of_perm hdistinct hperm]

theorem unknown_perm (hperm : entries'.Perm entries) :
    (unknown entries').Perm (unknown entries) := hperm.filter _

end Arranged

end Settings

end PostgresAccess
