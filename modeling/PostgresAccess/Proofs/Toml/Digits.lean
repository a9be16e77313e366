import PostgresAccess.Toml.Document

/-!
# Numbers that a document has too many digits for

A reader of a document may find many things wrong, but with a number only one: that it is a decimal
number of more digits than are read.  `KeepsLimit` says this of a result.  Every step of a sequence
keeps it, hence every reader, and so it holds of whole documents (`exists_tooLong_of_read`).
-/

namespace PostgresAccess.Toml

open Numeral (digitLimit)

/-- What is wrong with a number, if anything, is that it has more digits than are read. -/
def Problem.IsOfLimit (problem : Problem) : Prop :=
  ∀ fault, problem = .number fault → ∃ digits, fault = .tooLong digits ∧ digitLimit < digits

/-- Whether a problem is one with a number. -/
def Problem.isNumber : Problem → Bool
  | .number _ => true
  | _ => false

theorem Problem.isOfLimit_of_isNumber {problem : Problem} (h : problem.isNumber = false) :
    problem.IsOfLimit := by
  rintro fault rfl
  cases h

/-- A reading that fails because of a number fails because of the limit of its digits. -/
def KeepsLimit {α : Type} (reading : Except Fault α) : Prop :=
  ∀ fault, reading = .error fault → fault.problem.IsOfLimit

/-! ## Steps -/

section Steps

variable {α β : Type}

theorem keepsLimit_ok (a : α) : KeepsLimit (.ok a) := nofun

theorem keepsLimit_fail {problem : Problem} {rest : List Char} (h : problem.isNumber = false) :
    KeepsLimit (fail problem rest : Except Fault α) := by
  intro fault hfault
  cases hfault
  exact Problem.isOfLimit_of_isNumber h

theorem keepsLimit_bind {x : Except Fault α} {f : α → Except Fault β} (hx : KeepsLimit x)
    (hf : ∀ a, KeepsLimit (f a)) : KeepsLimit (x >>= f) := by
  cases x with
  | error fault =>
    intro _ h
    cases h
    exact hx fault rfl
  | ok a => exact hf a

theorem keepsLimit_map {x : Except Fault α} (f : α → β) (hx : KeepsLimit x) :
    KeepsLimit (x.map f) := by
  cases x with
  | error fault =>
    intro _ h
    cases h
    exact hx fault rfl
  | ok a => exact keepsLimit_ok _

theorem keepsLimit_before {x : Except Problem α} (rest : List Char)
    (hx : ∀ problem, x = .error problem → problem.IsOfLimit) :
    KeepsLimit (x.mapError (·.before rest)) := by
  cases x with
  | error problem =>
    intro _ h
    cases h
    exact hx problem rfl
  | ok a => exact keepsLimit_ok _

end Steps

/-! ## Numbers -/

theorem exists_tooLong_of_readDecimal? {cs rest : List Char} {fault : Numeral.IntegerFault}
    (h : readDecimal? cs = some (.error fault, rest)) :
    ∃ digits, fault = .tooLong digits ∧ digitLimit < digits := by
  simp only [readDecimal?, Option.bind_eq_bind, Option.bind_eq_some_iff] at h
  obtain ⟨⟨whole, after⟩, -, h⟩ := h
  simp only at h
  split at h
  · split at h
    · rename_i hlong
      cases h
      exact ⟨whole.length, rfl, hlong⟩
    · cases h
  · cases h

theorem keepsLimit_readScalar (cs : List Char) : KeepsLimit (readScalar cs) := by
  unfold readScalar
  split
  · split
    · exact keepsLimit_fail rfl
    · split <;> exact keepsLimit_ok _
  · split
    · exact keepsLimit_ok _
    · split
      · exact keepsLimit_ok _
      · split
        · exact keepsLimit_ok _
        -- the only reader of numbers that can fail: its fault is that of the limit
        · rename_i fault rest hdecimal
          intro other hother
          cases hother
          rintro _ ⟨⟩
          exact exists_tooLong_of_readDecimal? hdecimal
        · split
          · exact keepsLimit_ok _
          · exact keepsLimit_fail rfl

/-! ## Texts, comments and keys -/

theorem keepsLimit_refuse (illegal : Char → Bool) (cs rest : List Char) :
    KeepsLimit (refuse illegal cs rest) := by
  unfold refuse
  split
  · exact keepsLimit_ok _
  · intro fault h
    cases h
    exact Problem.isOfLimit_of_isNumber rfl

theorem keepsLimit_readUntil (mark : List Char) (illegal : Char → Bool) (cs : List Char) :
    KeepsLimit (readUntil mark illegal cs) := by
  unfold readUntil
  split
  · exact keepsLimit_fail rfl
  · exact keepsLimit_bind (keepsLimit_refuse _ _ _) fun _ => keepsLimit_ok _

theorem keepsLimit_skipComment (cs : List Char) : KeepsLimit (skipComment cs) := by
  unfold skipComment
  split
  · exact keepsLimit_bind (keepsLimit_refuse _ _ _) fun _ => keepsLimit_ok _
  · exact keepsLimit_ok _

theorem keepsLimit_skipComments (measure : Nat) (cs : List Char) :
    KeepsLimit (skipComments measure cs) := by
  induction measure generalizing cs with
  | zero => exact keepsLimit_ok _
  | succ measure ih =>
    refine keepsLimit_bind (keepsLimit_skipComment _) fun after => ?_
    split
    · exact keepsLimit_ok _
    · exact ih after

theorem keepsLimit_readCodePoint (width : Nat) (cs : List Char) :
    KeepsLimit (readCodePoint width cs) := by
  unfold readCodePoint
  split
  · exact keepsLimit_fail rfl
  · split
    · exact keepsLimit_fail rfl
    · dsimp only
      split
      · exact keepsLimit_ok _
      · exact keepsLimit_fail rfl

theorem keepsLimit_readBrokenLine (cs : List Char) : KeepsLimit (readBrokenLine cs) := by
  unfold readBrokenLine
  split
  · exact keepsLimit_ok _
  · split
    · exact keepsLimit_ok _
    · exact keepsLimit_ok _
    · exact keepsLimit_fail rfl

theorem keepsLimit_readEscape (lines : Bool) (cs : List Char) :
    KeepsLimit (readEscape lines cs) := by
  unfold readEscape
  split
  · exact keepsLimit_fail rfl
  · split
    · exact keepsLimit_map _ (keepsLimit_readBrokenLine _)
    · split
      · exact keepsLimit_map _ (keepsLimit_readCodePoint _ _)
      · split
        · exact keepsLimit_map _ (keepsLimit_readCodePoint _ _)
        · split
          · exact keepsLimit_ok _
          · exact keepsLimit_fail rfl

theorem keepsLimit_readEscaped (lines : Bool) (measure : Nat) (read cs : List Char) :
    KeepsLimit (readEscaped lines measure read cs) := by
  fun_induction readEscaped lines measure read cs with
  | case1 | case2 | case9 => exact keepsLimit_fail rfl
  | case3 | case4 => exact keepsLimit_ok _
  | case5 | case7 | case8 | case10 => assumption
  | case6 _ _ _ fault hescape =>
    intro other hother
    cases hother
    exact keepsLimit_readEscape _ _ fault hescape

theorem keepsLimit_readLines (mark : Char) (cs : List Char) : KeepsLimit (readLines mark cs) := by
  unfold readLines
  dsimp only
  split
  · exact keepsLimit_bind (keepsLimit_readUntil _ _ _) fun _ => keepsLimit_ok _
  · exact keepsLimit_bind (keepsLimit_readEscaped _ _ _ _) fun _ => keepsLimit_ok _

theorem keepsLimit_readLine (mark : Char) (cs : List Char) : KeepsLimit (readLine mark cs) := by
  unfold readLine
  dsimp only
  split
  · exact keepsLimit_bind (keepsLimit_readUntil _ _ _) fun _ => keepsLimit_ok _
  · exact keepsLimit_bind (keepsLimit_readEscaped _ _ _ _) fun _ => keepsLimit_ok _

theorem keepsLimit_readName (cs : List Char) : KeepsLimit (readName cs) := by
  unfold readName
  split
  · exact keepsLimit_fail rfl
  · split
    · exact keepsLimit_ok _
    · split
      · exact keepsLimit_readLine _ _
      · exact keepsLimit_fail rfl

theorem keepsLimit_readKey (measure : Nat) (cs : List Char) : KeepsLimit (readKey measure cs) := by
  induction measure generalizing cs with
  | zero => exact keepsLimit_fail rfl
  | succ measure ih =>
    refine keepsLimit_bind (keepsLimit_readName cs) fun ⟨_, rest⟩ => ?_
    dsimp only
    split
    · exact keepsLimit_bind (ih _) fun _ => keepsLimit_ok _
    · exact keepsLimit_ok _

/-! ## Values -/

theorem InlineTable.isOfLimit_of_add {table : InlineTable} {key : Key} {value : Value}
    {problem : Problem} (h : table.add key value = .error problem) : problem.IsOfLimit := by
  unfold InlineTable.add at h
  split at h
  · cases h
    exact Problem.isOfLimit_of_isNumber rfl
  · dsimp only at h
    split at h
    · cases h
      exact Problem.isOfLimit_of_isNumber rfl
    · split at h
      · cases h
        exact Problem.isOfLimit_of_isNumber rfl
      · cases h

theorem keepsLimit_readText (mark : Char) (rest : List Char) : KeepsLimit (readText mark rest) := by
  unfold readText
  refine keepsLimit_map _ ?_
  split
  · split
    · exact keepsLimit_readLines _ _
    · exact keepsLimit_readLine _ _
  · exact keepsLimit_readLine _ _

/-- The measure is common to values, members and entries, which contain one another. -/
theorem keepsLimit_collections (measure : Nat) :
    (∀ cs, KeepsLimit (readValue measure cs)) ∧ (∀ cs, KeepsLimit (readMembers measure cs)) ∧
      ∀ table cs, KeepsLimit (readInline measure table cs) := by
  induction measure with
  | zero =>
    exact ⟨fun _ => keepsLimit_fail rfl, fun _ => keepsLimit_fail rfl,
      fun _ _ => keepsLimit_fail rfl⟩
  | succ measure ih =>
    obtain ⟨ihValue, ihMembers, ihInline⟩ := ih
    -- each reader goes on with a smaller measure, so every call in it is covered by the induction
    refine ⟨fun cs => ?value, fun cs => ?members, fun table cs => ?inline⟩
    case value =>
      unfold readValue
      split
      · exact keepsLimit_readText _ _
      · exact keepsLimit_readText _ _
      · exact keepsLimit_ok _
      · exact keepsLimit_ok _
      · exact keepsLimit_bind (ihMembers _) fun _ => keepsLimit_ok _
      · split
        · exact keepsLimit_ok _
        · exact keepsLimit_bind (ihInline _ _) fun _ => keepsLimit_ok _
      · exact keepsLimit_readScalar _
    case members =>
      unfold readMembers
      refine keepsLimit_bind (keepsLimit_skipComments _ _) fun _ => ?_
      split
      · exact keepsLimit_ok _
      · refine keepsLimit_bind (ihValue _) fun ⟨_, rest⟩ => ?_
        refine keepsLimit_bind (keepsLimit_skipComments _ _) fun _ => ?_
        split
        · exact keepsLimit_ok _
        · exact keepsLimit_bind (ihMembers _) fun _ => keepsLimit_ok _
        · exact keepsLimit_fail rfl
    case inline =>
      unfold readInline
      refine keepsLimit_bind (keepsLimit_readKey _ _) fun ⟨_, rest⟩ => ?_
      dsimp only
      split
      · refine keepsLimit_bind (ihValue _) fun ⟨_, rest⟩ => ?_
        refine keepsLimit_bind (keepsLimit_before _ fun _ => InlineTable.isOfLimit_of_add)
          fun _ => ?_
        dsimp only
        split
        · exact keepsLimit_ok _
        · exact ihInline _ _
        · exact keepsLimit_fail rfl
      · exact keepsLimit_fail rfl

theorem keepsLimit_readPair (cs : List Char) : KeepsLimit (readPair cs) := by
  unfold readPair
  refine keepsLimit_bind (keepsLimit_readKey _ _) fun ⟨_, rest⟩ => ?_
  dsimp only
  split
  · exact keepsLimit_bind ((keepsLimit_collections _).1 _) fun _ => keepsLimit_ok _
  · exact keepsLimit_fail rfl

/-! ## Documents -/

namespace Draft

theorem isOfLimit_of_openTable {draft : Draft} {key : Key} {problem : Problem}
    (h : draft.openTable key = .error problem) : problem.IsOfLimit := by
  unfold openTable at h
  split at h
  · cases h
    exact Problem.isOfLimit_of_isNumber rfl
  · split at h
    · cases h
      exact Problem.isOfLimit_of_isNumber rfl
    · cases h

theorem isOfLimit_of_appendToList {draft : Draft} {key : Key} {problem : Problem}
    (h : draft.appendToList key = .error problem) : problem.IsOfLimit := by
  unfold appendToList at h
  split at h
  · cases h
    exact Problem.isOfLimit_of_isNumber rfl
  · dsimp only at h
    split at h
    · cases h
      exact Problem.isOfLimit_of_isNumber rfl
    · cases h

theorem isOfLimit_of_add {draft : Draft} {key : Key} {value : Value} {problem : Problem}
    (h : draft.add key value = .error problem) : problem.IsOfLimit := by
  unfold add at h
  dsimp only at h
  split at h
  · cases h
    exact Problem.isOfLimit_of_isNumber rfl
  · split at h
    · cases h
      exact Problem.isOfLimit_of_isNumber rfl
    · split at h
      · cases h
        exact Problem.isOfLimit_of_isNumber rfl
      · cases h

end Draft

theorem keepsLimit_readStatement (draft : Draft) (cs : List Char) :
    KeepsLimit (readStatement draft cs) := by
  unfold readStatement
  -- the header of a list of tables or of a table, a comment, a pair, or nothing
  split
  · refine keepsLimit_bind (keepsLimit_readKey _ _) fun ⟨_, rest⟩ => ?_
    refine keepsLimit_bind (keepsLimit_before _ fun _ => Draft.isOfLimit_of_appendToList)
      fun _ => ?_
    split
    · exact keepsLimit_ok _
    · exact keepsLimit_fail rfl
  · refine keepsLimit_bind (keepsLimit_readKey _ _) fun ⟨_, rest⟩ => ?_
    refine keepsLimit_bind (keepsLimit_before _ fun _ => Draft.isOfLimit_of_openTable) fun _ => ?_
    split
    · exact keepsLimit_ok _
    · exact keepsLimit_fail rfl
  · exact keepsLimit_ok _
  · split
    · refine keepsLimit_bind (keepsLimit_readPair _) fun ⟨⟨_, _⟩, rest⟩ => ?_
      exact keepsLimit_bind (keepsLimit_before _ fun _ => Draft.isOfLimit_of_add)
        fun _ => keepsLimit_ok _
    · exact keepsLimit_fail rfl
  · exact keepsLimit_ok _

theorem keepsLimit_readStatements (measure : Nat) (draft : Draft) (cs : List Char) :
    KeepsLimit (readStatements measure draft cs) := by
  induction measure generalizing draft cs with
  | zero => exact keepsLimit_ok _
  | succ measure ih =>
    unfold readStatements
    split
    · exact keepsLimit_ok _
    · exact ih _ _
    · refine keepsLimit_bind (keepsLimit_readStatement _ _) fun ⟨_, rest⟩ => ?_
      refine keepsLimit_bind (keepsLimit_skipComment _) fun _ => ?_
      split
      · exact keepsLimit_ok _
      · exact ih _ _
      · exact keepsLimit_fail rfl

/-- What a document may have wrong with a number is that it has more digits than are read. -/
theorem exists_tooLong_of_read {document : String} {complaint : Complaint}
    {fault : Numeral.IntegerFault} (h : read document = .error complaint)
    (hproblem : complaint.problem = .number fault) :
    ∃ digits, fault = .tooLong digits ∧ digitLimit < digits := by
  unfold read at h
  dsimp only at h
  split at h
  · cases h
  · rename_i found hfound
    cases h
    refine keepsLimit_readStatements _ _ _ found hfound fault ?_
    rw [← hproblem]
    unfold Fault.locate
    split <;> rfl

end PostgresAccess.Toml
