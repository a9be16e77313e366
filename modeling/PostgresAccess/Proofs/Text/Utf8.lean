import Mathlib.Data.List.Induction
import PostgresAccess.Text.Utf8

/-!
# Reading UTF-8 and writing it

The decoder takes one byte at a time and keeps what it has seen of an unfinished character as bits
and as the range of the next byte.  Two facts about such a character carry everything here.  Its
bytes seen are the first bytes of every code point that it can still become
(`Pending.Begins`, kept by every byte), and the bytes that complete a code point that it can become
are read as that code point (`push_trailing`).

The main results: bytes are read without a fault exactly if they are the bytes of a text, and then
as that text (`decode_eq_ok_iff`), so texts of the same bytes are the same (`encode_injective`).
-/

namespace PostgresAccess.Text.Utf8

/-! ## Bytes of code points -/

/-- A code point without its last `n` groups of six bits. -/
def leading : Nat → Nat → Nat
  | 0, v => v
  | n + 1, v => leading n v / 64

/-- The bytes of the last `n` groups of six bits of a code point. -/
def trailing : Nat → Nat → List UInt8
  | 0, _ => []
  | n + 1, v => UInt8.ofNat (leading n v % 64 + 0x80) :: trailing n v

/-- The bytes of a code point. -/
def codePointBytes (v : Nat) : List UInt8 :=
  if v < 0x80 then [UInt8.ofNat v]
  else if v < 0x800 then UInt8.ofNat (leading 1 v + 0xC0) :: trailing 1 v
  else if v < 0x10000 then UInt8.ofNat (leading 2 v + 0xE0) :: trailing 2 v
  else UInt8.ofNat (leading 3 v + 0xF0) :: trailing 3 v

theorem lt_of_isValidChar {v : Nat} (hv : v.isValidChar) : v < 0x110000 := by
  obtain h | h := hv <;> omega

theorem toNat_ofNat_of_isValidChar {v : Nat} (hv : v.isValidChar) : (Char.ofNat v).toNat = v := by
  rw [Char.ofNat, dif_pos hv]
  rfl

theorem toNat_byte {n : Nat} (h : n < 256) : (UInt8.ofNat n).toNat = n := by
  rw [UInt8.toNat_ofNat']
  exact Nat.mod_eq_of_lt h

theorem utf8EncodeChar_eq (c : Char) : String.utf8EncodeChar c = codePointBytes c.toNat := by
  have hbound : c.toNat < 0x110000 := lt_of_isValidChar c.valid
  have hval : c.val.toNat = c.toNat := rfl
  rw [String.utf8EncodeChar.eq_def]
  simp only [codePointBytes, hval, leading, trailing, Nat.div_div_eq_div_mul]
  generalize c.toNat = v at hbound
  split_ifs <;> first | omega | rfl | skip
  · rw [Nat.mod_eq_of_lt (a := v / 64) (by omega)]
  · rw [Nat.mod_eq_of_lt (a := v / 4096) (by omega)]
  · rw [Nat.mod_eq_of_lt (a := v / 262144) (by omega)]

section Lengths

variable {v : Nat}

theorem codePointBytes_one (h : v < 0x80) : codePointBytes v = [UInt8.ofNat v] := if_pos h

theorem codePointBytes_two (low : 0x80 ≤ v) (high : v < 0x800) :
    codePointBytes v = UInt8.ofNat (leading 1 v + 0xC0) :: trailing 1 v := by
  rw [codePointBytes, if_neg (by omega), if_pos high]

theorem codePointBytes_three (low : 0x800 ≤ v) (high : v < 0x10000) :
    codePointBytes v = UInt8.ofNat (leading 2 v + 0xE0) :: trailing 2 v := by
  rw [codePointBytes, if_neg (by omega), if_neg (by omega), if_pos high]

theorem codePointBytes_four (low : 0x10000 ≤ v) :
    codePointBytes v = UInt8.ofNat (leading 3 v + 0xF0) :: trailing 3 v := by
  rw [codePointBytes, if_neg (by omega), if_neg (by omega), if_neg (by omega)]

end Lengths

/-- The bytes of a code point start with zero only if it is zero. -/
theorem exists_codePointBytes_eq_cons {v : Nat} (hpos : v ≠ 0) (hbound : v < 0x110000) :
    ∃ b bytes, codePointBytes v = b :: bytes ∧ b ≠ 0 := by
  have hbyte : ∀ n, n ≠ 0 → n < 256 → UInt8.ofNat n ≠ 0 := by
    intro n hn hlt hzero
    have hvalue := congrArg UInt8.toNat hzero
    rw [toNat_byte hlt] at hvalue
    exact hn hvalue
  simp only [codePointBytes, leading]
  split_ifs <;> exact ⟨_, _, rfl, hbyte _ (by omega) (by omega)⟩

/-! ## First bytes -/

section First

variable {b : UInt8} {p : Pending}

theorem ofFirst_two (low : 0xC2 ≤ b.toNat) (high : b.toNat < 0xE0) :
    Pending.ofFirst b = some (.inr ⟨b, 1, 0, 0x80, 0xBF, b.toNat - 0xC0⟩) := by
  simp only [Pending.ofFirst]
  rw [if_neg (by omega), if_neg (by omega), if_pos high]

theorem ofFirst_three (low : 0xE0 ≤ b.toNat) (high : b.toNat < 0xF0) :
    Pending.ofFirst b = some (.inr ⟨b, 1, 1, if b.toNat = 0xE0 then 0xA0 else 0x80,
      if b.toNat = 0xED then 0x9F else 0xBF, b.toNat - 0xE0⟩) := by
  simp only [Pending.ofFirst]
  rw [if_neg (by omega), if_neg (by omega), if_neg (by omega)]
  split_ifs with hE0 hED
  · omega
  · simp only [hE0]
  · rfl
  · rfl

theorem ofFirst_four (low : 0xF0 ≤ b.toNat) (high : b.toNat ≤ 0xF4) :
    Pending.ofFirst b = some (.inr ⟨b, 1, 2, if b.toNat = 0xF0 then 0x90 else 0x80,
      if b.toNat = 0xF4 then 0x8F else 0xBF, b.toNat - 0xF0⟩) := by
  simp only [Pending.ofFirst]
  rw [if_neg (by omega), if_neg (by omega), if_neg (by omega), if_neg (by omega),
    if_neg (by omega), if_neg (by omega)]
  split_ifs with hF0 hF4
  · omega
  · simp only [hF0]
  · omega
  · rfl
  · rfl
  · omega

/-- A byte that starts an unfinished character is the first of two, three or four bytes. -/
theorem range_of_ofFirst (h : Pending.ofFirst b = some (.inr p)) :
    0xC2 ≤ b.toNat ∧ b.toNat < 0xE0 ∨ 0xE0 ≤ b.toNat ∧ b.toNat < 0xF0 ∨
      0xF0 ≤ b.toNat ∧ b.toNat ≤ 0xF4 := by
  simp only [Pending.ofFirst] at h
  split_ifs at h <;> first | cases h; done | omega

theorem codePointBytes_of_ofFirst {c : Char} (h : Pending.ofFirst b = some (.inl c)) :
    codePointBytes c.toNat = [b] := by
  simp only [Pending.ofFirst] at h
  split_ifs at h with hb
  case pos =>
    cases h
    rw [toNat_ofNat_of_isValidChar (.inl (by omega)), codePointBytes_one hb, UInt8.ofNat_toNat]
  all_goals cases h

end First

/-! ## Unfinished characters -/

/-- Whether an unfinished character can become a code point: its bits are those that have been
seen, and the next byte is in range. -/
structure Pending.Fits (p : Pending) (v : Nat) : Prop where
  bits : leading (p.later + 1) v = p.bits
  low : p.low ≤ leading p.later v % 64 + 0x80
  high : leading p.later v % 64 + 0x80 ≤ p.high

/-- What holds of an unfinished character of which some bytes have been seen: they are the first
bytes of every code point that it can still become. -/
structure Pending.Begins (p : Pending) (seen : List UInt8) : Prop where
  low : 0x80 ≤ p.low
  range : p.low ≤ p.high
  high : p.high ≤ 0xBF
  bytes : ∀ v, p.Fits v → v.isValidChar ∧ codePointBytes v = seen ++ trailing (p.later + 1) v

section Begins

variable {p q : Pending} {b : UInt8} {seen : List UInt8}

/-- The ranges of the second byte leave out the code points of shorter sequences, the surrogates and
what lies beyond the last code point. -/
theorem begins_of_ofFirst (h : Pending.ofFirst b = some (.inr p)) : p.Begins [b] := by
  have hb : UInt8.ofNat b.toNat = b := UInt8.ofNat_toNat
  -- the first byte tells how long the character is, and so which code points it can be
  rcases range_of_ofFirst h with ⟨low, high⟩ | ⟨low, high⟩ | ⟨low, high⟩
  · rw [ofFirst_two low high] at h
    cases h
    refine ⟨by simp, by simp, by simp, fun v hv => ?_⟩
    have hbits : leading 1 v = b.toNat - 0xC0 := hv.bits
    have hlead : leading 1 v + 0xC0 = b.toNat := by omega
    simp only [leading] at hbits
    refine ⟨.inl (by omega), ?_⟩
    rw [codePointBytes_two (by omega) (by omega), hlead, hb]
    rfl
  · rw [ofFirst_three low high] at h
    cases h
    refine ⟨by split_ifs <;> simp, ?_, by split_ifs <;> simp, fun v hv => ?_⟩
    · dsimp only
      split_ifs <;> omega
    have hbits : leading 2 v = b.toNat - 0xE0 := hv.bits
    have hlead : leading 2 v + 0xE0 = b.toNat := by omega
    have hlow := hv.low
    have hhigh := hv.high
    simp only [leading] at hbits hlow hhigh
    have hrange : 0x800 ≤ v ∧ v < 0x10000 ∧ (v < 0xD800 ∨ 0xDFFF < v) := by
      split_ifs at hlow hhigh <;> omega
    refine ⟨by simp only [Nat.isValidChar]; omega, ?_⟩
    rw [codePointBytes_three hrange.1 hrange.2.1, hlead, hb]
    rfl
  · rw [ofFirst_four low high] at h
    cases h
    refine ⟨by split_ifs <;> simp, ?_, by split_ifs <;> simp, fun v hv => ?_⟩
    · dsimp only
      split_ifs <;> omega
    have hbits : leading 3 v = b.toNat - 0xF0 := hv.bits
    have hlead : leading 3 v + 0xF0 = b.toNat := by omega
    have hlow := hv.low
    have hhigh := hv.high
    simp only [leading] at hbits hlow hhigh
    have hrange : 0x10000 ≤ v ∧ v < 0x110000 := by
      split_ifs at hlow hhigh <;> omega
    refine ⟨.inr (by omega), ?_⟩
    rw [codePointBytes_four hrange.1, hlead, hb]
    rfl

/-- A byte that continues a character is the next byte of what it can still become. -/
theorem begins_of_next (hp : p.Begins seen) (h : p.next b = some (.inr q)) :
    q.Begins (seen ++ [b]) := by
  obtain ⟨plow, -, phigh, hbytes⟩ := hp
  obtain ⟨first, count, later, low, high, bits⟩ := p
  simp only [Pending.next] at h
  split_ifs at h with hrange
  simp only at plow phigh hrange
  cases later with
  | zero => cases h
  | succ later =>
    cases h
    refine ⟨Nat.le_refl _, by simp, Nat.le_refl _, fun v hv => ?_⟩
    have hlead : leading (later + 1) v = bits * 64 + (b.toNat - 0x80) := hv.bits
    have hbyte : leading (later + 1) v % 64 + 0x80 = b.toNat := by omega
    have hfits : Pending.Fits ⟨first, count, later + 1, low, high, bits⟩ v := by
      refine ⟨?_, ?_, ?_⟩
      · show leading (later + 1) v / 64 = bits
        omega
      · show low ≤ leading (later + 1) v % 64 + 0x80
        omega
      · show leading (later + 1) v % 64 + 0x80 ≤ high
        omega
    refine ⟨(hbytes v hfits).1, (hbytes v hfits).2.trans ?_⟩
    simp only [trailing, hbyte, UInt8.ofNat_toNat, List.append_assoc, List.singleton_append]

theorem codePointBytes_of_next {c : Char} (hp : p.Begins seen) (h : p.next b = some (.inl c)) :
    codePointBytes c.toNat = seen ++ [b] := by
  obtain ⟨plow, -, phigh, hbytes⟩ := hp
  obtain ⟨first, count, later, low, high, bits⟩ := p
  simp only [Pending.next] at h
  split_ifs at h with hrange
  simp only at plow phigh hrange
  cases later with
  | succ later => cases h
  | zero =>
    have hc : Char.ofNat (bits * 64 + (b.toNat - 0x80)) = c := Sum.inl.inj (Option.some.inj h)
    subst hc
    have hbyte : (bits * 64 + (b.toNat - 0x80)) % 64 + 0x80 = b.toNat := by omega
    have hfits : Pending.Fits ⟨first, count, 0, low, high, bits⟩
        (bits * 64 + (b.toNat - 0x80)) := by
      refine ⟨?_, ?_, ?_⟩
      · show (bits * 64 + (b.toNat - 0x80)) / 64 = bits
        omega
      · show low ≤ (bits * 64 + (b.toNat - 0x80)) % 64 + 0x80
        omega
      · show (bits * 64 + (b.toNat - 0x80)) % 64 + 0x80 ≤ high
        omega
    obtain ⟨hvalid, hcode⟩ := hbytes _ hfits
    rw [toNat_ofNat_of_isValidChar hvalid, hcode]
    simp only [trailing, leading, hbyte, UInt8.ofNat_toNat]

end Begins

/-! ## Writing what was read -/

/-- What has been seen of the character that a decoder is inside of. -/
def Sees : Option Pending → List UInt8 → Prop
  | none, seen => seen = []
  | some p, seen => p.Begins seen

/-- A decoder that has met no fault has read the bytes of its characters, and those seen of the
character it is inside of. -/
def Decoder.HasRead (d : Decoder) (bytes : List UInt8) : Prop :=
  ∀ chars : List Char, d.pieces.reverse = chars.map .char →
    ∃ seen, bytes = chars.flatMap String.utf8EncodeChar ++ seen ∧ Sees d.pending seen

section HasRead

variable {pieces : List Piece} {pending : Option Pending} {bytes : List UInt8} {b : UInt8}

theorem fault_not_mem_map {kind : FaultKind} {first : UInt8} {length : Nat} {chars : List Char} :
    Piece.fault kind first length ∉ chars.map .char := by
  intro h
  obtain ⟨c, -, hc⟩ := List.mem_map.1 h
  cases hc

theorem hasRead_of_fault {kind : FaultKind} {first : UInt8} {length : Nat}
    (h : .fault kind first length ∈ pieces) : Decoder.HasRead ⟨pieces, pending⟩ bytes := by
  intro chars hchars
  have hmem := List.mem_reverse.2 h
  rw [hchars] at hmem
  exact absurd hmem fault_not_mem_map

theorem hasRead_of_char (hread : Decoder.HasRead ⟨pieces, pending⟩ bytes) {c : Char}
    (hc : ∀ seen, Sees pending seen → codePointBytes c.toNat = seen ++ [b]) :
    Decoder.HasRead ⟨.char c :: pieces, none⟩ (bytes ++ [b]) := by
  intro chars hchars
  rw [List.reverse_cons] at hchars
  obtain ⟨before, last, rfl, hbefore, hlast⟩ := List.map_eq_append_iff.1 hchars.symm
  obtain ⟨d, rfl, hd⟩ := List.map_eq_singleton_iff.1 hlast
  cases hd
  obtain ⟨seen, rfl, hseen⟩ := hread before hbefore.symm
  refine ⟨[], ?_, rfl⟩
  rw [List.flatMap_append, List.flatMap_singleton, utf8EncodeChar_eq, hc seen hseen,
    List.append_nil, List.append_assoc]

theorem hasRead_of_pending (hread : Decoder.HasRead ⟨pieces, pending⟩ bytes) {p : Pending}
    (hp : ∀ seen, Sees pending seen → p.Begins (seen ++ [b])) :
    Decoder.HasRead ⟨pieces, some p⟩ (bytes ++ [b]) := by
  intro chars hchars
  obtain ⟨seen, rfl, hseen⟩ := hread chars hchars
  exact ⟨seen ++ [b], List.append_assoc .., hp seen hseen⟩

theorem hasRead_push {d : Decoder} (hread : d.HasRead bytes) (b : UInt8) :
    (d.push b).HasRead (bytes ++ [b]) := by
  obtain ⟨pieces, pending⟩ := d
  cases pending with
  | none =>
    show (Decoder.start pieces b).HasRead (bytes ++ [b])
    unfold Decoder.start
    split
    · exact hasRead_of_fault (.head _)
    · rename_i c hfirst
      refine hasRead_of_char hread fun seen hseen => ?_
      obtain rfl : seen = [] := hseen
      exact codePointBytes_of_ofFirst hfirst
    · rename_i p hfirst
      refine hasRead_of_pending hread fun seen hseen => ?_
      obtain rfl : seen = [] := hseen
      exact begins_of_ofFirst hfirst
  | some p =>
    simp only [Decoder.push]
    split
    · rename_i c hnext
      exact hasRead_of_char hread fun seen hseen => codePointBytes_of_next hseen hnext
    · rename_i q hnext
      exact hasRead_of_pending hread fun seen hseen => begins_of_next hseen hnext
    · -- whatever the byte starts, the fault before it stays
      unfold Decoder.start
      split
      · exact hasRead_of_fault (.tail _ (.head _))
      · exact hasRead_of_fault (.tail _ (.head _))
      · exact hasRead_of_fault (.head _)

end HasRead

theorem hasRead_foldl (bytes : List UInt8) : (bytes.foldl Decoder.push .empty).HasRead bytes := by
  induction bytes using List.reverseRecOn with
  | nil =>
    intro chars hchars
    obtain rfl := List.map_eq_nil_iff.1 hchars.symm
    exact ⟨[], rfl, rfl⟩
  | append_singleton bytes b ih =>
    rw [List.foldl_append]
    exact hasRead_push ih b

theorem bytes_of_pieces {bytes : List UInt8} {chars : List Char}
    (h : pieces bytes = chars.map .char) : bytes = chars.flatMap String.utf8EncodeChar := by
  have hread := hasRead_foldl bytes
  unfold pieces at h
  generalize bytes.foldl Decoder.push .empty = d at h hread
  obtain ⟨pieces, pending⟩ := d
  -- bytes that end within a character leave a fault, which is no character
  cases pending with
  | none =>
    obtain ⟨seen, hbytes, hseen⟩ := hread chars h
    obtain rfl : seen = [] := hseen
    rw [hbytes, List.append_nil]
  | some p =>
    have hmem : Piece.fault .truncated p.first p.seen ∈ chars.map .char := by
      rw [← h]
      exact List.mem_reverse.2 (.head _)
    exact absurd hmem fault_not_mem_map

/-! ## Reading what was written -/

/-- The bytes that complete a code point which an unfinished character can become are read as it. -/
theorem push_trailing (pieces : List Piece) {v : Nat} (p : Pending) (hp : p.Fits v) :
    (trailing (p.later + 1) v).foldl Decoder.push ⟨pieces, some p⟩ =
      ⟨.char (Char.ofNat v) :: pieces, none⟩ := by
  obtain ⟨first, seen, later, low, high, bits⟩ := p
  obtain ⟨hbits, hlow, hhigh⟩ := hp
  simp only at hbits hlow hhigh ⊢
  -- on the bytes that are still to come; after the first of them, any bits are in range
  induction later generalizing seen low high bits with
  | zero =>
    simp only [leading] at hbits hlow hhigh
    have hbyte : (UInt8.ofNat (v % 64 + 0x80)).toNat = v % 64 + 0x80 := toNat_byte (by omega)
    have hv : bits * 64 + (v % 64 + 0x80 - 0x80) = v := by omega
    simp only [trailing, leading, List.foldl_cons, List.foldl_nil, Decoder.push, Pending.next,
      hbyte, if_pos (And.intro hlow hhigh), hv]
  | succ later ih =>
    have hbyte : (UInt8.ofNat (leading (later + 1) v % 64 + 0x80)).toNat =
        leading (later + 1) v % 64 + 0x80 := toNat_byte (by omega)
    have hv : bits * 64 + (leading (later + 1) v % 64 + 0x80 - 0x80) = leading (later + 1) v := by
      have hquotient : leading (later + 1) v / 64 = bits := hbits
      omega
    rw [trailing, List.foldl_cons]
    simp only [Decoder.push, Pending.next, hbyte, if_pos (And.intro hlow hhigh), hv]
    exact ih _ _ _ _ rfl (by omega) (by omega)

section Push

variable (pieces : List Piece) {v : Nat} {b : UInt8}

theorem push_of_ofFirst {n : Nat} {p : Pending} (hb : Pending.ofFirst b = some (.inr p))
    (hlater : p.later = n) (hp : p.Fits v) :
    (b :: trailing (n + 1) v).foldl Decoder.push ⟨pieces, none⟩ =
      ⟨.char (Char.ofNat v) :: pieces, none⟩ := by
  subst hlater
  rw [List.foldl_cons]
  simp only [Decoder.push, Decoder.start, hb]
  exact push_trailing pieces p hp

theorem push_two (hb : b.toNat = leading 1 v + 0xC0) (low : 0x80 ≤ v) (high : v < 0x800) :
    (b :: trailing 1 v).foldl Decoder.push ⟨pieces, none⟩ =
      ⟨.char (Char.ofNat v) :: pieces, none⟩ := by
  simp only [leading] at hb
  refine push_of_ofFirst pieces (ofFirst_two (by omega) (by omega)) rfl ⟨?_, ?_, ?_⟩
  all_goals simp only [leading]
  all_goals omega

theorem push_three (hb : b.toNat = leading 2 v + 0xE0) (low : 0x800 ≤ v) (high : v < 0x10000)
    (hv : v.isValidChar) :
    (b :: trailing 2 v).foldl Decoder.push ⟨pieces, none⟩ =
      ⟨.char (Char.ofNat v) :: pieces, none⟩ := by
  simp only [leading] at hb
  simp only [Nat.isValidChar] at hv
  refine push_of_ofFirst pieces (ofFirst_three (by omega) (by omega)) rfl ⟨?_, ?_, ?_⟩
  all_goals simp only [leading]
  · omega
  · split_ifs <;> omega
  · split_ifs <;> omega

theorem push_four (hb : b.toNat = leading 3 v + 0xF0) (low : 0x10000 ≤ v) (hv : v.isValidChar) :
    (b :: trailing 3 v).foldl Decoder.push ⟨pieces, none⟩ =
      ⟨.char (Char.ofNat v) :: pieces, none⟩ := by
  simp only [leading] at hb
  simp only [Nat.isValidChar] at hv
  refine push_of_ofFirst pieces (ofFirst_four (by omega) (by omega)) rfl ⟨?_, ?_, ?_⟩
  all_goals simp only [leading]
  · omega
  · split_ifs <;> omega
  · split_ifs <;> omega

theorem push_codePointBytes (hv : v.isValidChar) :
    (codePointBytes v).foldl Decoder.push ⟨pieces, none⟩ =
      ⟨.char (Char.ofNat v) :: pieces, none⟩ := by
  have hbound := lt_of_isValidChar hv
  unfold codePointBytes
  split_ifs with one two three
  · have hbyte : (UInt8.ofNat v).toNat = v := toNat_byte (by omega)
    simp only [List.foldl_cons, List.foldl_nil, Decoder.push, Decoder.start, Pending.ofFirst, hbyte,
      if_pos one]
  · have hlead : leading 1 v < 0x20 := by simp only [leading]; omega
    exact push_two pieces (toNat_byte (by omega)) (by omega) two
  · have hlead : leading 2 v < 0x10 := by simp only [leading]; omega
    exact push_three pieces (toNat_byte (by omega)) (by omega) three hv
  · have hlead : leading 3 v < 5 := by simp only [leading]; omega
    exact push_four pieces (toNat_byte (by omega)) (by omega) hv

end Push

theorem pieces_flatMap (chars : List Char) :
    pieces (chars.flatMap String.utf8EncodeChar) = chars.map .char := by
  -- the pieces read so far have to vary for the induction
  have hfold : ∀ before : List Piece,
      (chars.flatMap String.utf8EncodeChar).foldl Decoder.push ⟨before, none⟩ =
        ⟨(chars.map .char).reverse ++ before, none⟩ := by
    induction chars with
    | nil =>
      intro before
      rfl
    | cons c chars ih =>
      intro before
      have hc : c.toNat.isValidChar := c.valid
      rw [List.flatMap_cons, List.foldl_append, utf8EncodeChar_eq, push_codePointBytes before hc,
        ih, Char.ofNat_toNat]
      simp
  rw [pieces, Decoder.empty, hfold []]
  simp [Decoder.finish]

/-- The pieces of some bytes are some characters exactly when the bytes are those of the
characters. -/
theorem pieces_eq_map_iff {bytes : List UInt8} {chars : List Char} :
    pieces bytes = chars.map .char ↔ bytes = chars.flatMap String.utf8EncodeChar :=
  ⟨bytes_of_pieces, fun h => h ▸ pieces_flatMap chars⟩

/-! ## Accepting and replacing -/

theorem charsFrom_eq_ok {position : Nat} {before chars : List Char} {ps : List Piece} :
    charsFrom position before ps = .ok chars ↔
      ∃ after : List Char, ps = after.map .char ∧ chars = before.reverse ++ after := by
  induction ps generalizing position before with
  | nil => simp [charsFrom, eq_comm]
  | cons piece ps ih =>
    cases piece with
    | char c =>
      rw [charsFrom, ih]
      constructor
      · rintro ⟨after, rfl, rfl⟩
        exact ⟨c :: after, rfl, by simp⟩
      · rintro ⟨after, hafter, rfl⟩
        obtain ⟨d, after, rfl, hd, rfl⟩ := List.map_eq_cons_iff.1 hafter.symm
        cases hd
        exact ⟨after, rfl, by simp⟩
    | fault kind first length =>
      constructor
      · nofun
      · rintro ⟨after, hafter, -⟩
        obtain ⟨d, -, -, hd, -⟩ := List.map_eq_cons_iff.1 hafter.symm
        cases hd

/-- Bytes are accepted exactly if they are those of a text, which is what they are read as. -/
theorem decode_eq_ok_iff {bytes : List UInt8} {s : String} :
    decode bytes = .ok s ↔ encode s = bytes := by
  have hchars : charsFrom 0 [] (pieces bytes) = .ok s.toList ↔ encode s = bytes := by
    rw [charsFrom_eq_ok]
    constructor
    · rintro ⟨after, hpieces, hafter⟩
      rw [encode, hafter]
      exact (bytes_of_pieces hpieces).symm
    · intro h
      exact ⟨s.toList, pieces_eq_map_iff.2 h.symm, rfl⟩
  rw [← hchars, decode]
  cases charsFrom 0 [] (pieces bytes) with
  | error fault => exact ⟨nofun, nofun⟩
  | ok chars =>
    simp only [Except.map, Except.ok.injEq]
    exact ⟨fun h => h ▸ String.toList_ofList.symm, fun h => h ▸ String.ofList_toList⟩

theorem encode_injective : Function.Injective encode := by
  intro s t h
  have hs : decode (encode t) = .ok s := decode_eq_ok_iff.2 h
  have ht : decode (encode t) = .ok t := decode_eq_ok_iff.2 rfl
  exact Except.ok.inj (hs.symm.trans ht)

theorem exists_encode_eq_cons {s : String} {c : Char} {rest : List Char} (hs : s.toList = c :: rest)
    (hc : c ≠ '\x00') : ∃ b bytes, encode s = b :: bytes ∧ b ≠ 0 := by
  have hpos : c.toNat ≠ 0 := fun hzero => hc (Char.toNat_inj.1 hzero)
  obtain ⟨b, bytes, hbytes, hb⟩ := exists_codePointBytes_eq_cons hpos (lt_of_isValidChar c.valid)
  refine ⟨b, bytes ++ rest.flatMap String.utf8EncodeChar, ?_, hb⟩
  rw [encode, hs, List.flatMap_cons, utf8EncodeChar_eq, hbytes, List.cons_append]

/-- Bytes are refused exactly if they are not those of any text. -/
theorem exists_decode_eq_error_iff {bytes : List UInt8} :
    (∃ fault, decode bytes = .error fault) ↔ ∀ s, encode s ≠ bytes := by
  simp only [ne_eq, ← decode_eq_ok_iff]
  cases decode bytes <;> simp

end PostgresAccess.Text.Utf8
