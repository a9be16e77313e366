/-!
# The Mersenne Twister

A generator of words of 32 bits.  Its state is a block of 624 words, from which it gives one word
after another, and which it replaces by the next block when it has given them all.  It is started
with a key of words, or with a number, whose key is made of its words, the least significant first.
-/

namespace PostgresAccess.Generator

/-- A generator: its block and the number of words given from it. -/
structure Twister where
  block : Array UInt32
  used : Nat
deriving Repr

namespace Twister

/-- The number of words of a block. -/
def size : Nat := 624

/-- A word mixed with its upper two bits. -/
def fold (x : UInt32) : UInt32 := x ^^^ (x >>> 30)

/-- The block that a word starts; the words so far come latest first. -/
def blockFrom : Nat → Nat → List UInt32 → List UInt32
  | 0, _, words => words.reverse
  | count + 1, place, words =>
    blockFrom count (place + 1)
      ((1812433253 * fold (words.headD 0) + UInt32.ofNat place) :: words)

/-- A block that is being mixed with a key: the word to be mixed next and that before it. -/
structure Mixing where
  block : Array UInt32
  place : Nat

/-- The word before the next one to be mixed. -/
def Mixing.previous (m : Mixing) : UInt32 := m.block.getD (m.place - 1) 0

/-- Sets the next word; after the last one, it goes on with the second, and the last word becomes
the first. -/
def Mixing.set (m : Mixing) (word : UInt32) : Mixing :=
  let block := m.block.setIfInBounds m.place word
  if m.place + 1 < size then ⟨block, m.place + 1⟩ else ⟨block.setIfInBounds 0 word, 1⟩

/-- Mixes a word of the key into the block. -/
def Mixing.addKey (key : Array UInt32) (m : Mixing) (step : Nat) : Mixing :=
  let place := step % key.size
  let old := m.block.getD m.place 0
  m.set ((old ^^^ (fold m.previous * 1664525)) + key.getD place 0 + UInt32.ofNat place)

/-- Mixes the block once more. -/
def Mixing.stir (m : Mixing) : Mixing :=
  let old := m.block.getD m.place 0
  m.set ((old ^^^ (fold m.previous * 1566083941)) - UInt32.ofNat m.place)

/-- The generator that a key starts. -/
def ofKey (key : Array UInt32) : Twister :=
  let start : Mixing := ⟨(blockFrom (size - 1) 1 [19650218]).toArray, 1⟩
  let keyed := (List.range (max size key.size)).foldl (Mixing.addKey key) start
  let stirred := (List.range (size - 1)).foldl (fun m _ => m.stir) keyed
  ⟨stirred.block.setIfInBounds 0 0x80000000, size⟩

/-- The words of a number, the least significant first; the first argument bounds their number. -/
def wordsOfNat : Nat → Nat → List UInt32
  | 0, _ => []
  | count + 1, n =>
    if n = 0 then [] else UInt32.ofNat n :: wordsOfNat count (n / 0x100000000)

/-- The generator that a number starts. -/
def ofNat (n : Nat) : Twister :=
  let words := wordsOfNat (n.log2 / 32 + 1) n
  ofKey (if words.isEmpty then #[0] else words.toArray)

/-- The word that takes the place of another: made of the upper bit of that, the lower bits of the
word after it, and the word 397 places later, all in a circle. -/
def twistAt (block : Array UInt32) (place : Nat) : Array UInt32 :=
  let joined := (block.getD place 0 &&& 0x80000000)
    ||| (block.getD ((place + 1) % size) 0 &&& 0x7fffffff)
  let odd : UInt32 := if joined &&& 1 = 1 then 0x9908b0df else 0
  block.setIfInBounds place (block.getD ((place + 397) % size) 0 ^^^ (joined >>> 1) ^^^ odd)

/-- The block after a block. -/
def twist (block : Array UInt32) : Array UInt32 := (List.range size).foldl twistAt block

/-- The word that a word of the block gives. -/
def temper (word : UInt32) : UInt32 :=
  let word := word ^^^ (word >>> 11)
  let word := word ^^^ ((word <<< 7) &&& 0x9d2c5680)
  let word := word ^^^ ((word <<< 15) &&& 0xefc60000)
  word ^^^ (word >>> 18)

/-- The next word and the generator after it. -/
def next (t : Twister) : UInt32 × Twister :=
  let t := if t.used < size then t else ⟨twist t.block, 0⟩
  (temper (t.block.getD t.used 0), { t with used := t.used + 1 })

/-- A number of sixteen bits below a bound: the upper half of the first word for which it is below;
zero if none of the words that the measure allows has one. -/
def sixteenBitsBelow (bound : Nat) : Nat → Twister → Nat
  | 0, _ => 0
  | measure + 1, t =>
    let (word, after) := t.next
    let n := (word >>> 16).toNat
    if n < bound then n else sixteenBitsBelow bound measure after

/-- The number is below a positive bound. -/
theorem sixteenBitsBelow_lt {bound : Nat} (h : 0 < bound) (measure : Nat) (t : Twister) :
    sixteenBitsBelow bound measure t < bound := by
  induction measure generalizing t with
  | zero => exact h
  | succ measure ih =>
    simp only [sixteenBitsBelow]
    split
    · assumption
    · exact ih _

end Twister

end PostgresAccess.Generator
