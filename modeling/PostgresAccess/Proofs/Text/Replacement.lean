import PostgresAccess.Proofs.Text.Utf8

/-!
# Replacing what is not UTF-8

`Replaces` says what a text is that is read from any bytes: a character stands for its bytes, and
U+FFFD for each longest run of bytes that begins the bytes of some character but does not come to
their end, or for a single byte with which none begins.  The rules speak of the bytes of characters
alone, not of a decoder.

No character's bytes begin those of another (`eq_of_prefix`), so the rules leave no choice and the
text is determined by the bytes (`Replaces.unique`); and `decodeLossy` reads that text
(`replaces_decodeLossy`), from one first piece to the next (`exists_first`).
-/

namespace PostgresAccess.Text.Utf8

/-! ## The rules -/

/-- The bytes of some character begin with these. -/
def IsBeginning (bytes : List UInt8) : Prop := ∃ c : Char, bytes <+: String.utf8EncodeChar c

/-- Some bytes before others are a longest run that does not come to the end of a character. -/
structure IsIllFormed (run rest : List UInt8) : Prop where
  ne_nil : run ≠ []
  /-- No character is written at the place of the run. -/
  unwritten : ∀ c : Char, ¬ String.utf8EncodeChar c <+: run ++ rest
  single : ¬ IsBeginning run → run.length = 1
  longest : ∀ longer, longer <+: run ++ rest → IsBeginning longer → longer.length ≤ run.length

/-- What some bytes are read as if nothing is refused. -/
inductive Replaces : List UInt8 → List Char → Prop
  | nil : Replaces [] []
  | char (c : Char) {rest : List UInt8} {chars : List Char} (h : Replaces rest chars) :
    Replaces (String.utf8EncodeChar c ++ rest) (c :: chars)
  | fault {run rest : List UInt8} {chars : List Char} (hrun : IsIllFormed run rest)
    (h : Replaces rest chars) : Replaces (run ++ rest) ('\uFFFD' :: chars)

/-! ## One piece after another -/

namespace Decoder

/-- A decoder that had read some pieces before. -/
def after (d : Decoder) (before : List Piece) : Decoder := ⟨d.pieces ++ before, d.pending⟩

theorem start_after (pieces before : List Piece) (b : UInt8) :
    Decoder.start (pieces ++ before) b = (Decoder.start pieces b).after before := by
  unfold Decoder.start
  cases Pending.ofFirst b with
  | none => rfl
  | some read => cases read <;> rfl

theorem push_after (d : Decoder) (before : List Piece) (b : UInt8) :
    (d.after before).push b = (d.push b).after before := by
  obtain ⟨pieces, pending⟩ := d
  cases pending with
  | none => exact start_after pieces before b
  | some p =>
    simp only [after, push]
    cases p.next b with
    | none => exact start_after (_ :: pieces) before b
    | some read => cases read <;> rfl

/-- The pieces read before have no part in what is read after them. -/
theorem foldl_push_after (d : Decoder) (before : List Piece) (bytes : List UInt8) :
    bytes.foldl push (d.after before) = (bytes.foldl push d).after before := by
  induction bytes generalizing d with
  | nil => rfl
  | cons b bytes ih => rw [List.foldl_cons, List.foldl_cons, push_after, ih]

theorem finish_after (d : Decoder) (before : List Piece) :
    (d.after before).finish = before.reverse ++ d.finish := by
  obtain ⟨pieces, pending⟩ := d
  cases pending <;> simp [after, finish]

end Decoder

section Pieces

variable {bytes rest : List UInt8} {ps : List Piece} {p : Pending}

/-- After some bytes that end with a piece, the next bytes are read as if they were the first. -/
theorem pieces_append (h : bytes.foldl Decoder.push .empty = Decoder.empty.after ps) :
    pieces (bytes ++ rest) = ps.reverse ++ pieces rest := by
  rw [pieces, List.foldl_append, h, Decoder.foldl_push_after, Decoder.finish_after, pieces]

theorem foldl_push_char (c : Char) :
    (String.utf8EncodeChar c).foldl Decoder.push .empty = Decoder.empty.after [.char c] := by
  have hc : c.toNat.isValidChar := c.valid
  rw [utf8EncodeChar_eq, Decoder.empty, push_codePointBytes [] hc, Char.ofNat_toNat]
  rfl

theorem pieces_char (c : Char) (rest : List UInt8) :
    pieces (String.utf8EncodeChar c ++ rest) = .char c :: pieces rest :=
  pieces_append (foldl_push_char c)

/-- No character's bytes begin those of another. -/
theorem eq_of_prefix {c d : Char} {rest rest' : List UInt8}
    (h : String.utf8EncodeChar c ++ rest = String.utf8EncodeChar d ++ rest') :
    c = d ∧ rest = rest' := by
  have hpieces : Piece.char c :: pieces rest = .char d :: pieces rest' := by
    rw [← pieces_char, ← pieces_char, h]
  obtain rfl : c = d := Piece.char.inj (List.cons.inj hpieces).1
  exact ⟨rfl, List.append_cancel_left h⟩

/-! ## Bytes inside of a character -/

/-- What is read of the first bytes of a character is no piece but that character. -/
theorem pieces_of_isBeginning (h : IsBeginning bytes) :
    ∃ c : Char, (bytes.foldl Decoder.push .empty).pieces <:+ [.char c] := by
  obtain ⟨c, later, hc⟩ := h
  have hread := foldl_push_char c
  rw [← hc, List.foldl_append] at hread
  refine ⟨c, ?_⟩
  generalize bytes.foldl Decoder.push .empty = d at hread
  obtain ⟨read, pending⟩ := d
  have hafter : (⟨read, pending⟩ : Decoder) = Decoder.after ⟨[], pending⟩ read := rfl
  rw [hafter, Decoder.foldl_push_after] at hread
  exact ⟨_, congrArg Decoder.pieces hread⟩

/-- Bytes that are read as a fault do not begin a character. -/
theorem not_isBeginning_of_fault {kind : FaultKind} {first : UInt8} {length : Nat}
    {d : Decoder} (h : bytes.foldl Decoder.push .empty = d.after [.fault kind first length]) :
    ¬ IsBeginning bytes := by
  intro hbeginning
  obtain ⟨c, hc⟩ := pieces_of_isBeginning hbeginning
  rw [h] at hc
  cases List.mem_singleton.1 (hc.subset (List.mem_append_right _ (.head _)))

/-- No character has come to its end in what a decoder has seen of one. -/
theorem not_prefix_of_pending (h : bytes.foldl Decoder.push .empty = ⟨[], some p⟩) (c : Char) :
    ¬ String.utf8EncodeChar c <+: bytes := by
  rintro ⟨later, rfl⟩
  rw [List.foldl_append, foldl_push_char, Decoder.foldl_push_after] at h
  exact List.append_ne_nil_of_right_ne_nil _ (List.cons_ne_nil _ _) (congrArg Decoder.pieces h)

theorem leading_mul (n v : Nat) : leading n (v * Nat.pow 64 n) = v := by
  induction n generalizing v with
  | zero => simp [leading]
  | succ n ih =>
    have hshift : v * Nat.pow 64 (n + 1) = v * 64 * Nat.pow 64 n := by
      rw [Nat.pow_eq, Nat.pow_eq, Nat.pow_succ', ← Nat.mul_assoc]
    rw [leading, hshift, ih]
    omega

/-- An unfinished character can become a code point: one whose next byte is the least in range. -/
theorem isBeginning_of_begins (h : p.Begins bytes) : IsBeginning bytes := by
  obtain ⟨hlow, hrange, hhigh, hbytes⟩ := h
  -- the next byte is the least in its range, and all later ones hold no bits
  let v := (p.bits * 64 + (p.low - 0x80)) * Nat.pow 64 p.later
  have hlead : leading p.later v = p.bits * 64 + (p.low - 0x80) := leading_mul ..
  have hfits : p.Fits v := by
    refine ⟨?_, ?_, ?_⟩
    · rw [leading, hlead]
      omega
    · rw [hlead]
      omega
    · rw [hlead]
      omega
  obtain ⟨hvalid, hcode⟩ := hbytes v hfits
  refine ⟨Char.ofNat v, ?_⟩
  rw [utf8EncodeChar_eq, toNat_ofNat_of_isValidChar hvalid, hcode]
  exact List.prefix_append ..

/-- A byte that does not follow what was seen of a character makes a fault of it, and is then read
as a first byte. -/
theorem foldl_push_of_not_next (hread : bytes.foldl Decoder.push .empty = ⟨[], some p⟩) {b : UInt8}
    (hnext : p.next b = none) (later : List UInt8) :
    (bytes ++ b :: later).foldl Decoder.push .empty =
      ((b :: later).foldl Decoder.push .empty).after [.fault .continuation p.first p.seen] := by
  have hpush : (⟨[], some p⟩ : Decoder).push b =
      (Decoder.empty.push b).after [.fault .continuation p.first p.seen] := by
    simp only [Decoder.push, hnext]
    exact Decoder.start_after [] _ b
  rw [List.foldl_append, hread, List.foldl_cons, hpush, Decoder.foldl_push_after, List.foldl_cons]

theorem foldl_push_of_not_first {b : UInt8} (hfirst : Pending.ofFirst b = none)
    (later : List UInt8) :
    (b :: later).foldl Decoder.push .empty =
      (later.foldl Decoder.push .empty).after [.fault .start b 1] := by
  have hpush : Decoder.empty.push b = Decoder.empty.after [.fault .start b 1] := by
    simp only [Decoder.push, Decoder.empty, Decoder.start, hfirst]
    rfl
  rw [List.foldl_cons, hpush, Decoder.foldl_push_after]

theorem isIllFormed_of_not_first {b : UInt8} (hfirst : Pending.ofFirst b = none) :
    IsIllFormed [b] rest := by
  have hnone : ∀ later, ¬ IsBeginning (b :: later) := fun later =>
    not_isBeginning_of_fault (foldl_push_of_not_first hfirst later)
  refine ⟨List.cons_ne_nil _ _, ?_, fun _ => rfl, ?_⟩
  · intro c hprefix
    obtain ⟨first, later, hc⟩ := List.exists_cons_of_ne_nil String.utf8EncodeChar_ne_nil
    rw [hc] at hprefix
    obtain ⟨rfl, -⟩ := List.cons_prefix_cons.1 hprefix
    exact hnone later ⟨c, hc ▸ List.prefix_refl _⟩
  · intro longer hprefix hbeginning
    cases longer with
    | nil => exact Nat.zero_le _
    | cons first later =>
      obtain ⟨rfl, -⟩ := List.cons_prefix_cons.1 hprefix
      exact absurd hbeginning (hnone later)

/-- What was seen of a character is ill-formed if the bytes end or the next byte does not follow. -/
theorem isIllFormed_of_pending (hread : bytes.foldl Decoder.push .empty = ⟨[], some p⟩)
    (hp : p.Begins bytes) (hnext : ∀ b later, rest = b :: later → p.next b = none) :
    IsIllFormed bytes rest := by
  -- whatever begins a character has its end within the bytes that were seen
  have hwithin : ∀ longer, longer <+: bytes ++ rest → IsBeginning longer → longer <+: bytes := by
    intro longer hprefix hbeginning
    obtain hle | ⟨beyond, rfl⟩ :=
      List.prefix_or_prefix_of_prefix hprefix (List.prefix_append bytes rest)
    · exact hle
    · cases beyond with
      | nil => simp
      | cons b beyond =>
        obtain ⟨later, rfl⟩ := (List.prefix_append_right_inj bytes).1 hprefix
        exact absurd hbeginning
          (not_isBeginning_of_fault (foldl_push_of_not_next hread (hnext b _ rfl) beyond))
  refine ⟨?_, ?_, ?_, ?_⟩
  · rintro rfl
    cases hread
  · intro c hprefix
    exact not_prefix_of_pending hread c (hwithin _ hprefix ⟨c, List.prefix_refl _⟩)
  · exact absurd (isBeginning_of_begins hp)
  · intro longer hprefix hbeginning
    exact (hwithin longer hprefix hbeginning).length_le

/-! ## The first piece -/

/-- What some bytes are read as that are not the end. -/
inductive StartsWithPiece (bytes : List UInt8) : Prop
  | char (c : Char) (rest : List UInt8) (hbytes : bytes = String.utf8EncodeChar c ++ rest)
  | fault {run rest : List UInt8} (kind : FaultKind) (first : UInt8) (length : Nat)
    (hrun : IsIllFormed run rest) (hbytes : bytes = run ++ rest)
    (hpieces : pieces bytes = .fault kind first length :: pieces rest)

theorem exists_first_of_pending (hread : bytes.foldl Decoder.push .empty = ⟨[], some p⟩)
    (hp : p.Begins bytes) : StartsWithPiece (bytes ++ rest) := by
  -- on the bytes that are not read yet: each of them ends the piece or is seen as part of it
  induction rest generalizing bytes p with
  | nil =>
    refine .fault .truncated p.first p.seen (isIllFormed_of_pending hread hp (by simp)) rfl ?_
    rw [pieces, List.append_nil, hread]
    rfl
  | cons b rest ih =>
    cases hnext : p.next b with
    | none =>
      refine .fault .continuation p.first p.seen (isIllFormed_of_pending hread hp ?_) rfl ?_
      · rintro _ _ ⟨⟩
        exact hnext
      · rw [pieces, foldl_push_of_not_next hread hnext, Decoder.finish_after]
        rfl
    | some read =>
      have happend : bytes ++ b :: rest = (bytes ++ [b]) ++ rest := by simp
      rw [happend]
      cases read with
      | inl c =>
        refine .char c rest ?_
        rw [utf8EncodeChar_eq, codePointBytes_of_next hp hnext]
      | inr q =>
        refine ih ?_ (begins_of_next hp hnext)
        rw [List.foldl_append, hread]
        simp only [List.foldl_cons, List.foldl_nil, Decoder.push, hnext]

theorem exists_first (b : UInt8) (rest : List UInt8) : StartsWithPiece (b :: rest) := by
  cases hfirst : Pending.ofFirst b with
  | none =>
    refine .fault .start b 1 (isIllFormed_of_not_first hfirst) rfl ?_
    rw [pieces, foldl_push_of_not_first hfirst, Decoder.finish_after]
    rfl
  | some read =>
    cases read with
    | inl c =>
      refine .char c rest ?_
      rw [utf8EncodeChar_eq, codePointBytes_of_ofFirst hfirst]
      rfl
    | inr p =>
      have hread : [b].foldl Decoder.push .empty = ⟨[], some p⟩ := by
        simp only [List.foldl_cons, List.foldl_nil, Decoder.push, Decoder.empty, Decoder.start,
          hfirst]
      exact exists_first_of_pending hread (begins_of_ofFirst hfirst)

end Pieces

/-! ## The text of any bytes -/

theorem replaces_pieces (bytes : List UInt8) :
    Replaces bytes ((pieces bytes).map Piece.toChar) := by
  -- a first piece takes up at least one byte, so what comes after it is shorter
  induction hlength : bytes.length using Nat.strongRecOn generalizing bytes with
  | ind length ih =>
    subst hlength
    cases bytes with
    | nil => exact .nil
    | cons b rest =>
      cases exists_first b rest with
      | char c after hbytes =>
        have hshorter : after.length < (b :: rest).length := by
          have hpos := List.length_pos_iff.2 (String.utf8EncodeChar_ne_nil (c := c))
          rw [hbytes, List.length_append]
          omega
        rw [hbytes, pieces_char]
        exact .char c (ih _ hshorter after rfl)
      | @fault run after kind first length hrun hbytes hpieces =>
        have hshorter : after.length < (b :: rest).length := by
          have hpos := List.length_pos_iff.2 hrun.ne_nil
          rw [hbytes, List.length_append]
          omega
        rw [hpieces, hbytes]
        exact .fault hrun (ih _ hshorter after rfl)

/-- Replacing faults gives the text that the rules ask for. -/
theorem replaces_decodeLossy (bytes : List UInt8) :
    Replaces bytes (decodeLossy bytes).toList := by
  rw [decodeLossy, String.toList_ofList]
  exact replaces_pieces bytes

/-- Ill-formed runs at the front of the same bytes are the same. -/
theorem IsIllFormed.length_le {run run' rest rest' : List UInt8} (h : IsIllFormed run rest)
    (h' : IsIllFormed run' rest') (heq : run ++ rest = run' ++ rest') :
    run.length ≤ run'.length := by
  by_cases hbeginning : IsBeginning run
  · exact h'.longest run (heq ▸ List.prefix_append run rest) hbeginning
  · rw [h.single hbeginning]
    exact List.length_pos_iff.2 h'.ne_nil

/-- The bytes determine the text. -/
theorem Replaces.unique {bytes : List UInt8} {chars chars' : List Char} (h : Replaces bytes chars)
    (h' : Replaces bytes chars') : chars = chars' := by
  induction h generalizing chars' with
  | nil =>
    generalize hbytes : ([] : List UInt8) = bytes at h'
    cases h' with
    | nil => rfl
    | char c _ => exact absurd (List.append_eq_nil_iff.1 hbytes.symm).1 String.utf8EncodeChar_ne_nil
    | fault hrun _ => exact absurd (List.append_eq_nil_iff.1 hbytes.symm).1 hrun.ne_nil
  | @char c rest chars h ih =>
    -- the bytes that start with a character start with no ill-formed run, and the other way round
    generalize hbytes : String.utf8EncodeChar c ++ rest = bytes at h'
    cases h' with
    | nil => exact absurd (List.append_eq_nil_iff.1 hbytes).1 String.utf8EncodeChar_ne_nil
    | char d h' =>
      obtain ⟨rfl, rfl⟩ := eq_of_prefix hbytes
      rw [ih h']
    | fault hrun _ => exact absurd (hbytes ▸ List.prefix_append ..) (hrun.unwritten c)
  | @fault run rest chars hrun h ih =>
    generalize hbytes : run ++ rest = bytes at h'
    cases h' with
    | nil => exact absurd (List.append_eq_nil_iff.1 hbytes).1 hrun.ne_nil
    | char d _ => exact absurd (hbytes ▸ List.prefix_append ..) (hrun.unwritten d)
    | @fault run' rest' chars' hrun' h' =>
      -- both runs are the longest ones, so they end at the same byte
      have hlength : run.length = run'.length :=
        Nat.le_antisymm (hrun.length_le hrun' hbytes) (hrun'.length_le hrun hbytes.symm)
      obtain ⟨rfl, rfl⟩ := List.append_inj hbytes hlength
      rw [ih h']

end PostgresAccess.Text.Utf8
