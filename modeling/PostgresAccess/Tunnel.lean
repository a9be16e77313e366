import PostgresAccess.Generator.Sha512
import PostgresAccess.Generator.Twister
import PostgresAccess.Text.Utf8
import PostgresAccess.Value.Literal

/-!
# Tunnel ports

A connection through a jump host enters a tunnel at a local port.  The port is drawn by a generator
that the seed of the allocator and the target start together, so that a target has the same port
whenever an allocator is asked for it.  The generator is started with the number that is written by
the bytes of the seed text followed by their SHA-512 digest.

A number of too many digits is not written into a seed text.  An allocator with such a seed is made
like any other, but it draws no port, and neither does any allocator for a target that holds such a
number.
-/

namespace PostgresAccess.Tunnel

open Generator (Twister)
open Numeral (IntegerFault)

/-- An allocator of tunnel ports, by its seed. -/
structure Allocator where
  seed : Value

/-- The allocator of a word, which is what the clock gives. -/
def Allocator.ofWord (n : UInt64) : Allocator := ⟨.int n.toNat⟩

/-- The text that the seed of an allocator and a target start the generator with. -/
def seedText (seed host port : Value) : String :=
  seed.shown ++ ":" ++ host.shown ++ port.shown

/-- The number that some bytes write, the most significant first. -/
def numberOfBytes (bytes : List UInt8) : Nat := bytes.foldl (fun n b => n * 256 + b.toNat) 0

/-- The number that a seed text stands for. -/
def seedNumber (text : String) : Nat :=
  let bytes := Text.Utf8.encode text
  numberOfBytes (bytes ++ Generator.Sha512.digest bytes)

/-- The least tunnel port. -/
def minPort : Nat := 1024

/-- The greatest tunnel port. -/
def maxPort : Nat := 65535

/-- How many numbers are drawn at most for a port. -/
def drawLimit : Nat := 1000

/-- The port that a seed text draws. -/
def draw (text : String) : Nat :=
  minPort + (Twister.ofNat (seedNumber text)).sixteenBitsBelow (maxPort + 1 - minPort) drawLimit

/-- A port that is drawn lies between the bounds. -/
theorem draw_bounds (text : String) : minPort ≤ draw text ∧ draw text ≤ maxPort := by
  have below := @Twister.sixteenBitsBelow_lt (maxPort + 1 - minPort) (by decide) drawLimit
    (Twister.ofNat (seedNumber text))
  unfold draw
  simp only [minPort, maxPort] at below ⊢
  omega

/-- The tunnel port of a target, by an allocator, if the seed and the target can be written. -/
def port (allocator : Allocator) (host port : Value) : Except IntegerFault Nat :=
  if anyOversized [allocator.seed, host, port] then .error .oversized
  else .ok (draw (seedText allocator.seed host port))

/-- A tunnel port lies between the bounds. -/
theorem port_bounds {allocator : Allocator} {host target : Value} {n : Nat}
    (h : port allocator host target = .ok n) : minPort ≤ n ∧ n ≤ maxPort := by
  unfold port at h
  split at h
  · cases h
  · cases h
    exact draw_bounds _

end PostgresAccess.Tunnel
