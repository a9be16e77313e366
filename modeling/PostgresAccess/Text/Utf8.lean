import PostgresAccess.Text.Quoted

/-!
# Reading UTF-8

A decoder takes one byte at a time.  Between two characters it holds nothing; inside a character it
holds the bytes seen so far and the range in which the next byte has to lie.  What it has read is a
sequence of pieces: characters, and faults.  A fault covers the longest run of bytes that could
still have started a character, so a reader that replaces faults puts one replacement character for
each such run.

`decode` accepts well-formed bytes only and reports the first fault; `decodeLossy` replaces each
fault by U+FFFD.
-/

namespace PostgresAccess.Text.Utf8

/-- Why some bytes are not the start of a character. -/
inductive FaultKind where
  /-- No character starts with this byte. -/
  | start
  /-- The byte after them does not continue the character. -/
  | continuation
  /-- The bytes end inside a character. -/
  | truncated
deriving DecidableEq, Repr

/-- The words for a kind of fault. -/
def FaultKind.message : FaultKind → String
  | .start => "invalid start byte"
  | .continuation => "invalid continuation byte"
  | .truncated => "unexpected end of data"

/-- A piece of decoded text. -/
inductive Piece where
  | char (c : Char)
  /-- Bytes that do not form a character; `first` is the first of `length` bytes. -/
  | fault (kind : FaultKind) (first : UInt8) (length : Nat)
deriving DecidableEq, Repr

/-- A character whose last bytes are still to come. -/
structure Pending where
  /-- The first byte of the character. -/
  first : UInt8
  /-- How many bytes have been seen. -/
  seen : Nat
  /-- How many bytes are still to come, the next one not counted. -/
  later : Nat
  /-- The least value of the next byte. -/
  low : Nat
  /-- The greatest value of the next byte. -/
  high : Nat
  /-- The value of the bits seen. -/
  bits : Nat
deriving DecidableEq, Repr

/-- What the first byte of a character says: the whole character, or what has to follow.  `none`
for a byte that starts no character. -/
def Pending.ofFirst (b : UInt8) : Option (Char ⊕ Pending) :=
  let n := b.toNat
  if n < 0x80 then some (.inl (Char.ofNat n))
  else if n < 0xC2 then none
  else if n < 0xE0 then some (.inr ⟨b, 1, 0, 0x80, 0xBF, n - 0xC0⟩)
  else if n = 0xE0 then some (.inr ⟨b, 1, 1, 0xA0, 0xBF, 0⟩)
  else if n = 0xED then some (.inr ⟨b, 1, 1, 0x80, 0x9F, n - 0xE0⟩)
  else if n < 0xF0 then some (.inr ⟨b, 1, 1, 0x80, 0xBF, n - 0xE0⟩)
  else if n = 0xF0 then some (.inr ⟨b, 1, 2, 0x90, 0xBF, 0⟩)
  else if n < 0xF4 then some (.inr ⟨b, 1, 2, 0x80, 0xBF, n - 0xF0⟩)
  else if n = 0xF4 then some (.inr ⟨b, 1, 2, 0x80, 0x8F, n - 0xF0⟩)
  else none

/-- What the next byte makes of an unfinished character.  `none` for a byte that cannot follow. -/
def Pending.next (p : Pending) (b : UInt8) : Option (Char ⊕ Pending) :=
  let n := b.toNat
  if p.low ≤ n ∧ n ≤ p.high then
    let bits := p.bits * 64 + (n - 0x80)
    match p.later with
    | 0 => some (.inl (Char.ofNat bits))
    | later + 1 => some (.inr ⟨p.first, p.seen + 1, later, 0x80, 0xBF, bits⟩)
  else
    none

/-- A decoder between two bytes: the pieces read so far, the latest first, and the character it is
inside of. -/
structure Decoder where
  pieces : List Piece
  pending : Option Pending
deriving DecidableEq, Repr

/-- A decoder that has read nothing. -/
def Decoder.empty : Decoder := ⟨[], none⟩

/-- Takes a byte between two characters. -/
def Decoder.start (pieces : List Piece) (b : UInt8) : Decoder :=
  match Pending.ofFirst b with
  | none => ⟨.fault .start b 1 :: pieces, none⟩
  | some (.inl c) => ⟨.char c :: pieces, none⟩
  | some (.inr p) => ⟨pieces, some p⟩

/-- Takes the next byte.  A byte that does not continue the unfinished character ends it as a fault
and is then read as a first byte. -/
def Decoder.push (d : Decoder) (b : UInt8) : Decoder :=
  match d.pending with
  | none => .start d.pieces b
  | some p =>
    match p.next b with
    | some (.inl c) => ⟨.char c :: d.pieces, none⟩
    | some (.inr q) => ⟨d.pieces, some q⟩
    | none => .start (.fault .continuation p.first p.seen :: d.pieces) b

/-- The pieces of all the bytes, the first one first.  An unfinished character is a fault. -/
def Decoder.finish (d : Decoder) : List Piece :=
  match d.pending with
  | none => d.pieces.reverse
  | some p => (.fault .truncated p.first p.seen :: d.pieces).reverse

/-- The pieces of a sequence of bytes. -/
def pieces (bytes : List UInt8) : List Piece := (bytes.foldl Decoder.push .empty).finish

/-! ## Accepting and replacing -/

/-- The first fault of some bytes, with its place. -/
structure Fault where
  kind : FaultKind
  first : UInt8
  position : Nat
  length : Nat
deriving DecidableEq, Repr

/-- Where the fault is and why, with the byte if it is a single one. -/
def Fault.message (f : Fault) : String :=
  let place :=
    if f.length = 1 then
      "byte 0x" ++ String.ofList (hexadecimal 2 f.first.toNat) ++ " in position "
        ++ toString f.position
    else
      "bytes in position " ++ toString f.position ++ "-" ++ toString (f.position + f.length - 1)
  "'utf-8' codec can't decode " ++ place ++ ": " ++ f.kind.message

/-- The number of bytes of a piece. -/
def Piece.width : Piece → Nat
  | .char c => c.utf8Size
  | .fault _ _ length => length

/-- The characters of some pieces without a fault, after the characters of earlier pieces, the
latest first. -/
def charsFrom : Nat → List Char → List Piece → Except Fault (List Char)
  | _, chars, [] => .ok chars.reverse
  | position, chars, .char c :: rest => charsFrom (position + c.utf8Size) (c :: chars) rest
  | position, _, .fault kind first length :: _ => .error ⟨kind, first, position, length⟩

/-- The text that well-formed bytes encode, or their first fault. -/
def decode (bytes : List UInt8) : Except Fault String :=
  (charsFrom 0 [] (pieces bytes)).map String.ofList

/-- The character that stands for bytes that encode none. -/
def replacement : Char := '\uFFFD'

/-- The character of a piece, a replacement for a fault. -/
def Piece.toChar : Piece → Char
  | .char c => c
  | .fault .. => replacement

/-- The text of any bytes, each fault replaced. -/
def decodeLossy (bytes : List UInt8) : String :=
  String.ofList ((pieces bytes).map Piece.toChar)

/-- The bytes of a text. -/
def encode (s : String) : List UInt8 := s.toList.flatMap String.utf8EncodeChar

end PostgresAccess.Text.Utf8
