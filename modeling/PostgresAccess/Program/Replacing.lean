import PostgresAccess.Program.Copying
import PostgresAccess.Program.Format

/-!
# Replacing characters

The program `tr` copies its input and replaces, drops or squeezes the bytes of a set.  A set is
written as a list of characters, with escapes, ranges and the names of classes.
-/

namespace PostgresAccess.Program

/-- The characters between two ones. -/
def charRange (low high : Char) : List Char :=
  (List.range' low.toNat (high.toNat + 1 - low.toNat)).map Char.ofNat

/-- The classes of characters with names. -/
def charClasses : List (String × List Char) :=
  let digits := charRange '0' '9'
  let upper := charRange 'A' 'Z'
  let lower := charRange 'a' 'z'
  [("[:digit:]", digits), ("[:upper:]", upper), ("[:lower:]", lower),
    ("[:alpha:]", upper ++ lower), ("[:alnum:]", digits ++ upper ++ lower),
    ("[:space:]", charRange '\t' '\r' ++ [' ']), ("[:blank:]", ['\t', ' ']),
    ("[:cntrl:]", charRange '\x00' '\x1f' ++ ['\x7f']), ("[:print:]", charRange ' ' '~')]

/-- The first character of a set and what follows it. -/
def setChar : List Char → Option (Char × List Char)
  | [] => none
  | '\\' :: rest =>
    match escape .standalone rest with
    | ([c], after) => some (c, after)
    | (_, _ :: after) => rest.head?.map fun c => (c, after)
    | (_, []) => rest.head?.map fun c => (c, [])
  | c :: rest => some (c, rest)

/-- The characters of a set, which may hold escapes, ranges and classes; the measure bounds its
length. -/
def setMembers : Nat → List Char → List Char
  | 0, _ => []
  | measure + 1, cs =>
    match charClasses.find? fun entry => entry.1.toList.isPrefixOf cs with
    | some (name, members) => members ++ setMembers measure (cs.drop name.length)
    | none =>
      match setChar cs with
      | none => []
      | some (low, '-' :: rest) =>
        match setChar rest with
        | none => [low, '-']
        | some (high, after) => charRange low high ++ setMembers measure after
      | some (c, after) => c :: setMembers measure after

/-- The characters of a set. -/
def members (set : String) : List Char :=
  let cs := byteChars set
  setMembers cs.length cs

/-- The character that takes the place of another one: that at its last place in the first set; the
last character of the second set stands for all that follow. -/
def replacementOf (first second : List Char) (c : Char) : Char :=
  match (first.zipIdx.reverse.find? fun entry => entry.1 == c) with
  | none => c
  | some (_, place) => second.getD place (second.getLast?.getD c)

/-- Drops each of some bytes that is the same as the one before it. -/
def squeeze (isSqueezed : UInt8 → Bool) : List UInt8 → List UInt8
  | a :: b :: rest =>
    if a = b && isSqueezed a then squeeze isSqueezed (b :: rest)
    else a :: squeeze isSqueezed (b :: rest)
  | bytes => bytes

/-- Applies a function to the bytes of a source. -/
def onSource (f : List UInt8 → List UInt8) (source : Source) : Run :=
  if source.isEndless && (f source.period).isEmpty then .endless
  else printingSource { source with bytes := f source.bytes, period := f source.period }

/-- Replaces, drops or squeezes characters of the input. -/
def tr (scene : Scene) (arguments : List String) : Run :=
  withOptions "tr" "cCds" "" arguments fun settings operands =>
    let has (letter : Char) : Bool := settings.any fun setting => setting.1 == letter
    let isByteOf (set : List Char) (b : UInt8) : Bool := set.contains (Char.ofNat b.toNat)
    let chosen (set : String) : List Char :=
      let cs := members set
      if has 'c' || has 'C' then (charRange '\x00' 'ÿ').filter (!cs.contains ·) else cs
    match has 'd', has 's', operands with
    | true, false, [set] => onSource (·.filter (!isByteOf (chosen set) ·)) scene.input
    | false, true, [set] => onSource (squeeze (isByteOf (chosen set))) scene.input
    | false, squeezes, [first, second] =>
      if second = "" then
        .complaining "tr: when not truncating set1, string2 must be non-empty" 1
      else
        let replaced := chosen first
        let replacing := members second
        let table := ((List.range 256).map fun n =>
          UInt8.ofNat (replacementOf replaced replacing (Char.ofNat n)).toNat).toArray
        let exchange (bytes : List UInt8) : List UInt8 := bytes.map fun b => table.getD b.toNat b
        let replace (bytes : List UInt8) : List UInt8 :=
          if squeezes then squeeze (isByteOf replacing) (exchange bytes) else exchange bytes
        onSource replace scene.input
    | _, _, [] => usageComplaint "tr" "missing operand"
    | _, _, [set] =>
      usageComplaint "tr" ("missing operand after '" ++ set
        ++ "'\nTwo strings must be given when translating.")
    | true, false, _ :: extra :: _ =>
      usageComplaint "tr" ("extra operand '" ++ extra
        ++ "'\nOnly one string may be given when deleting without squeezing repeats.")
    | _, _, _ :: extra :: [] => usageComplaint "tr" ("extra operand '" ++ extra ++ "'")
    | _, _, _ :: _ :: extra :: _ => usageComplaint "tr" ("extra operand '" ++ extra ++ "'")

end PostgresAccess.Program
