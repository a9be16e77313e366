import PostgresAccess.Text.Utf8

/-!
# Text encodings

The encodings in which a helper may write a secret.  `decode?` accepts only bytes that encode a
text; `decodeLossy` puts U+FFFD where they do not.  An encoding goes by several names, and a
`Charset` keeps the one that was used.
-/

namespace PostgresAccess.Text

/-- An encoding of text as bytes. -/
inductive Encoding where
  | utf8
  /-- One byte for each of the first 256 code points. -/
  | latin1
  /-- One byte for each of the first 128 code points. -/
  | ascii
deriving DecidableEq, Repr

namespace Encoding

/-- The names of an encoding, in small letters and with low lines between their parts. -/
def names : Encoding → List String
  | .utf8 => ["utf_8", "utf8", "utf", "u8", "cp65001", "utf8_ucs2", "utf8_ucs4"]
  | .latin1 =>
    ["latin_1", "latin1", "latin", "l1", "iso_8859_1", "iso8859_1", "iso8859", "8859", "cp819",
      "ibm819", "iso_ir_100", "iso_8859_1_1987", "csisolatin1"]
  | .ascii =>
    ["ascii", "us_ascii", "us", "646", "iso646_us", "iso_646.irv_1991", "iso_ir_6", "cp367",
      "ibm367", "ansi_x3.4_1968", "ansi_x3.4_1986", "ansi_x3_4_1968", "csascii"]

/-- A name in small letters and with low lines between its parts. -/
def normalName (name : String) : String :=
  let parts := name.toList.splitBy fun a b => isPart a == isPart b
  "_".intercalate
    ((parts.filter fun part => part.all isPart).map fun part => (String.ofList part).toLower)
where
  /-- A character of a part of a name. -/
  isPart (c : Char) : Bool := c.isAlphanum || c == '.'

/-- The encoding of a name. -/
def ofName? (name : String) : Option Encoding :=
  [utf8, latin1, ascii].find? fun encoding => encoding.names.contains (normalName name)

/-- The character of a byte below 128, a replacement for another byte. -/
def asciiChar (b : UInt8) : Char :=
  if b.toNat < 0x80 then Char.ofNat b.toNat else Utf8.replacement

/-- The text that some bytes encode, if they do. -/
def decode? : Encoding → List UInt8 → Option String
  | .utf8, bytes => (Utf8.decode bytes).toOption
  | .latin1, bytes => some (String.ofList (bytes.map fun b => Char.ofNat b.toNat))
  | .ascii, bytes =>
    if bytes.all (·.toNat < 0x80) then some (String.ofList (bytes.map asciiChar)) else none

/-- The text of any bytes, with replacements where they encode none. -/
def decodeLossy : Encoding → List UInt8 → String
  | .utf8, bytes => Utf8.decodeLossy bytes
  | .latin1, bytes => String.ofList (bytes.map fun b => Char.ofNat b.toNat)
  | .ascii, bytes => String.ofList (bytes.map asciiChar)

end Encoding

/-- An encoding by one of its names. -/
structure Charset where
  name : String
  encoding : Encoding
deriving DecidableEq, Repr

namespace Charset

/-- The encoding that most programs write. -/
def utf8 : Charset := ⟨"utf-8", .utf8⟩

/-- The encoding of a name. -/
def ofName? (name : String) : Option Charset := (Encoding.ofName? name).map (⟨name, ·⟩)

/-- The text that some bytes encode, if they do. -/
def decode? (charset : Charset) (bytes : List UInt8) : Option String :=
  charset.encoding.decode? bytes

/-- The text of any bytes, with replacements where they encode none. -/
def decodeLossy (charset : Charset) (bytes : List UInt8) : String :=
  charset.encoding.decodeLossy bytes

end Charset

end PostgresAccess.Text
