import Mathlib.Data.List.Basic
import PostgresAccess.Proofs.Assembly.Course
import PostgresAccess.Proofs.Numeral.Runs
import PostgresAccess.Proofs.Text.Utf8

/-!
# What a seed text identifies

A seed text is made of the seed of an allocator, a colon, a host and a port, one after the other.
It can be taken apart from both ends.  An integer is written without a colon, so the first colon
ends the seed, whatever the host holds (`seedText_eq_iff`).  Nothing stands between the host and the
port; but a port is written in digits, so a host that does not end in a digit ends where the digits
at the end begin (`append_toString_eq_iff`).  Both are cuts at the first place where a property of
the characters fails, and there is one such place only (`eq_of_append_eq`).

The generator is started with the number that the bytes of the seed text and of their digest write.
No seed text of an integer starts with the character zero, so the number has as many bytes as are
written, and it determines the text as well (`eq_of_seedNumber_eq`).

The main result is `seedText_identifies_target`: the seed text determines the seed and the target,
and an allocator draws the ports of two targets with generators that are started with different
numbers.
-/

namespace PostgresAccess.Tunnel

open Numeral (isDigit_of_mem_toString_of_nonneg not_mem_toString toString_inj)

/-- Whether the last character of a text is a digit. -/
def endsInDigit (text : String) : Bool := text.toList.getLast?.any Char.isDigit

/-! ## Cutting -/

/-- A text is cut in one way only into characters with a property and what starts without it. -/
theorem eq_of_append_eq {p : Char → Bool} {before before' after after' : List Char}
    (hbefore : ∀ c ∈ before, p c = true) (hbefore' : ∀ c ∈ before', p c = true)
    (hafter : ∀ c ∈ after.head?, p c = false) (hafter' : ∀ c ∈ after'.head?, p c = false)
    (h : before ++ after = before' ++ after') : before = before' ∧ after = after' := by
  -- the part that ends first is followed by a character without the property, so both end there
  induction before generalizing before' with
  | nil =>
    cases before' with
    | nil => exact ⟨rfl, h⟩
    | cons c rest =>
      obtain rfl : after = c :: (rest ++ after') := h
      have hfails := hafter c rfl
      rw [hbefore' c (.head _)] at hfails
      cases hfails
  | cons c rest ih =>
    cases before' with
    | nil =>
      obtain rfl : c :: (rest ++ after) = after' := h
      have hfails := hafter' c rfl
      rw [hbefore c (.head _)] at hfails
      cases hfails
    | cons c' rest' =>
      obtain ⟨rfl, hrest⟩ := List.cons.inj h
      obtain ⟨rfl, rfl⟩ := ih (fun d hd => hbefore d (.tail _ hd))
        (fun d hd => hbefore' d (.tail _ hd)) hrest
      exact ⟨rfl, rfl⟩

theorem toList_seedText (seed port : Int) (host : String) :
    (seedText (.int seed) (.text host) (.int port)).toList =
      (toString seed).toList ++ ':' :: (host.toList ++ (toString port).toList) := by
  simp [seedText, Value.shown, Value.literal]

/-- Two seed texts are the same exactly if the seeds are, and what follows the first colon. -/
theorem seedText_eq_iff {seed seed' port port' : Int} {host host' : String} :
    seedText (.int seed) (.text host) (.int port) =
        seedText (.int seed') (.text host') (.int port') ↔
      seed = seed' ∧
        host.toList ++ (toString port).toList = host'.toList ++ (toString port').toList := by
  rw [← String.toList_inj, toList_seedText, toList_seedText]
  constructor
  · intro h
    have hcolon : ∀ n : Int, ∀ c ∈ (toString n).toList, (c != ':') = true := fun n c hc =>
      bne_iff_ne.2 (ne_of_mem_of_not_mem hc (not_mem_toString (by decide) (by decide) n))
    obtain ⟨hseed, hrest⟩ :=
      eq_of_append_eq (hcolon seed) (hcolon seed') (by simp) (by simp) h
    exact ⟨toString_inj.1 (String.toList_inj.1 hseed), (List.cons.inj hrest).2⟩
  · rintro ⟨rfl, hrest⟩
    rw [hrest]

/-- The digits after a text that does not end in one tell where it ends. -/
theorem append_toString_eq_iff {port port' : Int} {host host' : String}
    (hhost : endsInDigit host = false) (hhost' : endsInDigit host' = false)
    (hport : 0 ≤ port) (hport' : 0 ≤ port') :
    host.toList ++ (toString port).toList = host'.toList ++ (toString port').toList ↔
      host = host' ∧ port = port' := by
  -- seen from the end, the digits come first and the host after them
  have hdigits : ∀ {n : Int}, 0 ≤ n → ∀ c ∈ (toString n).toList.reverse, c.isDigit = true :=
    fun hn c hc => isDigit_of_mem_toString_of_nonneg hn (List.mem_reverse.1 hc)
  have hlast : ∀ {text : String}, endsInDigit text = false →
      ∀ c ∈ text.toList.reverse.head?, c.isDigit = false := by
    intro text htext c hc
    rw [List.head?_reverse, Option.mem_def] at hc
    rwa [endsInDigit, hc] at htext
  constructor
  · intro h
    have hreverse := congrArg List.reverse h
    rw [List.reverse_append, List.reverse_append] at hreverse
    obtain ⟨hnumber, htext⟩ :=
      eq_of_append_eq (hdigits hport) (hdigits hport') (hlast hhost) (hlast hhost') hreverse
    exact ⟨String.toList_inj.1 (List.reverse_inj.1 htext),
      toString_inj.1 (String.toList_inj.1 (List.reverse_inj.1 hnumber))⟩
  · rintro ⟨rfl, rfl⟩
    rfl

/-! ## Numbers that start the generator -/

theorem numberOfBytes_eq (bytes : List UInt8) :
    numberOfBytes bytes = Text.ofDigits 256 (bytes.map UInt8.toNat) := by
  rw [numberOfBytes, Text.ofDigits, List.foldl_map]

theorem eq_of_numberOfBytes_eq {bytes bytes' : List UInt8} (hhead : bytes.head? ≠ some 0)
    (hhead' : bytes'.head? ≠ some 0) (h : numberOfBytes bytes = numberOfBytes bytes') :
    bytes = bytes' := by
  have hlt : ∀ bytes : List UInt8, ∀ d ∈ bytes.map UInt8.toNat, d < 256 := by
    intro bytes d hd
    obtain ⟨b, -, rfl⟩ := List.mem_map.1 hd
    exact b.toNat_lt
  have hfirst : ∀ {bytes : List UInt8}, bytes.head? ≠ some 0 →
      (bytes.map UInt8.toNat).head? ≠ some 0 := by
    intro bytes hhead hzero
    rw [List.head?_map, Option.map_eq_some_iff] at hzero
    obtain ⟨b, hb, hvalue⟩ := hzero
    exact hhead (hb.trans (congrArg some (UInt8.toNat_inj.1 hvalue)))
  rw [numberOfBytes_eq, numberOfBytes_eq] at h
  have hvalues := Text.eq_of_ofDigits_eq_of_head? (by decide) (hlt bytes) (hlt bytes')
    (hfirst hhead) (hfirst hhead') h
  exact List.map_injective_iff.2 (fun _ _ => UInt8.toNat_inj.1) hvalues

/-- Texts that do not start with the character zero are determined by the numbers that they stand
for. -/
theorem eq_of_seedNumber_eq {text text' : String} {c c' : Char} {rest rest' : List Char}
    (htext : text.toList = c :: rest) (htext' : text'.toList = c' :: rest') (hc : c ≠ '\x00')
    (hc' : c' ≠ '\x00') (h : seedNumber text = seedNumber text') : text = text' := by
  have hfirst : ∀ {text : String} {c : Char} {rest : List Char}, text.toList = c :: rest →
      c ≠ '\x00' → ∀ digest, (Text.Utf8.encode text ++ digest).head? ≠ some 0 := by
    intro text c rest htext hc digest hzero
    obtain ⟨b, bytes, hbytes, hb⟩ := Text.Utf8.exists_encode_eq_cons htext hc
    rw [hbytes] at hzero
    exact hb (Option.some.inj hzero)
  have hbytes := eq_of_numberOfBytes_eq (hfirst htext hc _) (hfirst htext' hc' _) h
  -- all digests have one length, so what comes before them is the same as well
  have hlength : (Generator.Sha512.digest (Text.Utf8.encode text)).length =
      (Generator.Sha512.digest (Text.Utf8.encode text')).length := by
    rw [Generator.Sha512.length_digest, Generator.Sha512.length_digest]
  exact Text.Utf8.encode_injective (List.append_inj_left' hbytes hlength)

theorem exists_toList_seedText (seed port : Int) (host : String) :
    ∃ c rest, (seedText (.int seed) (.text host) (.int port)).toList = c :: rest ∧
      c ≠ '\x00' := by
  rw [toList_seedText]
  cases hseed : (toString seed).toList with
  | nil => exact ⟨':', _, rfl, by decide⟩
  | cons c rest =>
    refine ⟨c, _, rfl, ?_⟩
    rintro rfl
    have hzero : '\x00' ∈ (toString seed).toList := hseed ▸ List.mem_cons_self
    exact not_mem_toString (by decide) (by decide) seed hzero

theorem seedText_eq_of_seedNumber_eq {seed seed' port port' : Int} {host host' : String}
    (h : seedNumber (seedText (.int seed) (.text host) (.int port)) =
      seedNumber (seedText (.int seed') (.text host') (.int port'))) :
    seedText (.int seed) (.text host) (.int port) =
      seedText (.int seed') (.text host') (.int port') := by
  obtain ⟨c, rest, htext, hc⟩ := exists_toList_seedText seed port host
  obtain ⟨c', rest', htext', hc'⟩ := exists_toList_seedText seed' port' host'
  exact eq_of_seedNumber_eq htext htext' hc hc' h

/-! ## Targets -/

/-- The ports of two targets are drawn apart: each from a seed text of its own, if the seed can be
written, and with a generator that is started with a number of its own. -/
structure Allocator.DrawsApart (allocator : Allocator) (host port host' port' : Value) : Prop where
  drawn : allocator.seed.hasOversized = false →
    Tunnel.port allocator host port = .ok (draw (seedText allocator.seed host port))
  drawn' : allocator.seed.hasOversized = false →
    Tunnel.port allocator host' port' = .ok (draw (seedText allocator.seed host' port'))
  texts : seedText allocator.seed host port ≠ seedText allocator.seed host' port'
  numbers : seedNumber (seedText allocator.seed host port) ≠
    seedNumber (seedText allocator.seed host' port')

theorem port_of_written {allocator : Allocator} (hseed : allocator.seed.hasOversized = false)
    (host : String) {port : Int} (hport : 1 ≤ port ∧ port ≤ 65535) :
    Tunnel.port allocator (.text host) (.int port) =
      .ok (draw (seedText allocator.seed (.text host) (.int port))) := by
  have hwritten := Assembly.hasOversized_port hport.1 hport.2
  have htext : (Value.text host).hasOversized = false := rfl
  simp only [Tunnel.port, anyOversized, hseed, htext, hwritten]
  rfl

/-- Where hosts do not end in a digit, a seed text of an integer determines the seed, the host and
the port.  So whenever an allocator gives two targets one port, the generator has drawn it twice,
started with two different numbers. -/
theorem seedText_identifies_target (seed seed' : Int) {port port' : Int} {host host' : String}
    (hhost : endsInDigit host = false) (hhost' : endsInDigit host' = false)
    (hport : 1 ≤ port ∧ port ≤ 65535) (hport' : 1 ≤ port' ∧ port' ≤ 65535) :
    (seedText (.int seed) (.text host) (.int port) =
        seedText (.int seed') (.text host') (.int port') ↔
      seed = seed' ∧ host = host' ∧ port = port') ∧
    ∀ allocator : Allocator, allocator.seed = .int seed → ¬ (host = host' ∧ port = port') →
      allocator.DrawsApart (.text host) (.int port) (.text host') (.int port') := by
  have hpos : 0 ≤ port := by omega
  have hpos' : 0 ≤ port' := by omega
  have htarget := append_toString_eq_iff hhost hhost' hpos hpos'
  refine ⟨by rw [seedText_eq_iff, htarget], ?_⟩
  intro allocator hseed hdifferent
  have htexts : seedText (.int seed) (.text host) (.int port) ≠
      seedText (.int seed) (.text host') (.int port') := by
    intro h
    exact hdifferent (htarget.1 (seedText_eq_iff.1 h).2)
  have hnumbers : seedNumber (seedText (.int seed) (.text host) (.int port)) ≠
      seedNumber (seedText (.int seed) (.text host') (.int port')) := by
    intro h
    exact htexts (seedText_eq_of_seedNumber_eq h)
  exact {
    drawn := fun hwritten => port_of_written hwritten host hport
    drawn' := fun hwritten => port_of_written hwritten host' hport'
    texts := hseed ▸ htexts
    numbers := hseed ▸ hnumbers }

/-- Two targets of which one has a colon where the other has the first digit of its port. -/
theorem seedText_identifies_target_colon :
    endsInDigit "1:db:" = false ∧ endsInDigit "1:db" = false ∧
    (seedText (.int 7) (.text "1:db:") (.int 5432) =
        seedText (.int 7) (.text "1:db") (.int 15432) ↔
      (7 : Int) = 7 ∧ "1:db:" = "1:db" ∧ (5432 : Int) = 15432) ∧
    (Allocator.ofWord 7).DrawsApart (.text "1:db:") (.int 5432) (.text "1:db") (.int 15432) := by
  have hcolon : endsInDigit "1:db:" = false := rfl
  have hplain : endsInDigit "1:db" = false := rfl
  have hboth := seedText_identifies_target 7 7 hcolon hplain
    (show (1 : Int) ≤ 5432 ∧ (5432 : Int) ≤ 65535 by decide)
    (show (1 : Int) ≤ 15432 ∧ (15432 : Int) ≤ 65535 by decide)
  exact ⟨hcolon, hplain, hboth.1, hboth.2 (.ofWord 7) rfl (by decide)⟩

/-- The digits at the end of a host run into those of the port. -/
example : seedText (.int 7) (.text "db") (.int 12345) =
    seedText (.int 7) (.text "db1") (.int 2345) := by decide +kernel

end PostgresAccess.Tunnel
