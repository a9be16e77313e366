import PostgresAccess.Numeral.Nearest
import PostgresAccess.Text.Utf8

/-!
# Formatted output

A format is copied to the output, except for escapes, which start with a backslash, and conversions,
which start with a percent sign and take an argument each.  As long as arguments are left, the
format is used again.

There are two dialects: the shell's own and that of the separate program.  They differ in the
escapes and conversions that they know and in their messages.  Formats and outputs are bytes, which
are kept as characters below 256.
-/

namespace PostgresAccess.Program

open Numeral (readReal)
open Text (asciiDigit? hexDigit? ofDigits)

/-- The bytes of a text as characters below 256. -/
def byteChars (s : String) : List Char := (Text.Utf8.encode s).map fun b => Char.ofNat b.toNat

/-- The bytes that some characters below 256 stand for. -/
def charBytes (cs : List Char) : List UInt8 := cs.map fun c => UInt8.ofNat c.toNat

/-- Whose rules a format follows. -/
inductive Dialect where
  /-- The command that a shell has built in, whose messages start with a label. -/
  | shell (label : String)
  | standalone
deriving DecidableEq, Repr

/-- The separate program knows some escapes more. -/
def Dialect.isStandalone : Dialect → Bool
  | .shell _ => false
  | .standalone => true

/-! ## Escapes -/

/-- The value of an octal digit. -/
def octalDigit? (c : Char) : Option Nat := (asciiDigit? c).filter (· < 8)

/-- Up to some digits at the start of a text, and what follows them. -/
def digitsUpTo (digit? : Char → Option Nat) : Nat → List Char → List Nat × List Char
  | 0, cs => ([], cs)
  | _, [] => ([], [])
  | count + 1, c :: rest =>
    match digit? c with
    | none => ([], c :: rest)
    | some d =>
      let (digits, after) := digitsUpTo digit? count rest
      (d :: digits, after)

/-- The character of the number of a byte. -/
def byteOfNumber (n : Nat) : Char := Char.ofNat (n % 256)

/-- The character that a letter stands for after a backslash. -/
def letterEscape? : Char → Option Char
  | 'a' => some '\x07'
  | 'b' => some '\x08'
  | 'e' => some '\x1b'
  | 'f' => some '\x0c'
  | 'n' => some '\n'
  | 'r' => some '\r'
  | 't' => some '\t'
  | 'v' => some '\x0b'
  | '\\' => some '\\'
  | _ => none

/-- What an escape stands for, whose backslash is dropped, and what follows it. -/
def escape (dialect : Dialect) (cs : List Char) : List Char × List Char :=
  match cs with
  | [] => (['\\'], [])
  | c :: rest =>
    match letterEscape? c with
    | some e => ([e], rest)
    | none =>
      if (octalDigit? c).isSome then
        let (digits, after) := digitsUpTo octalDigit? 3 cs
        ([byteOfNumber (ofDigits 8 digits)], after)
      else if dialect.isStandalone && c == '\x22' then ([c], rest)
      else if dialect.isStandalone && c == 'x' then
        let (digits, after) := digitsUpTo hexDigit? 2 rest
        if digits.isEmpty then (['\\', c], rest) else ([byteOfNumber (ofDigits 16 digits)], after)
      else (['\\', c], rest)

/-- A text with its escapes replaced, up to the escape that ends it: here an octal escape starts
with a zero.  The measure bounds the length of the text. -/
def unescaped (dialect : Dialect) : Nat → List Char → List Char
  | 0, _ => []
  | _, [] => []
  | measure + 1, '\\' :: rest =>
    match rest with
    | 'c' :: _ => []
    | '0' :: more =>
      let (digits, after) := digitsUpTo octalDigit? 3 more
      byteOfNumber (ofDigits 8 digits) :: unescaped dialect measure after
    | rest =>
      let (cs, after) := escape dialect rest
      cs ++ unescaped dialect measure after
  | measure + 1, c :: rest => c :: unescaped dialect measure rest

/-- Whether an escape ends all output, in the argument of a conversion or of `echo`. -/
def endsOutput : List Char → Bool
  | '\\' :: 'c' :: _ => true
  | '\\' :: _ :: rest => endsOutput rest
  | _ :: rest => endsOutput rest
  | [] => false

/-! ## Conversions -/

/-- What a conversion asks for. -/
structure Conversion where
  /-- The characters between the percent sign and the width. -/
  flags : List Char
  width : Nat
  precision : Option Nat
  letter : Char
deriving DecidableEq, Repr

namespace Conversion

/-- The conversion has a flag. -/
def has (c : Conversion) (flag : Char) : Bool := c.flags.contains flag

/-- A text, filled up to the width of a conversion. -/
def fill (c : Conversion) (cs : List Char) : List Char :=
  let gap := List.replicate (c.width - cs.length) ' '
  if c.has '-' then cs ++ gap else gap ++ cs

/-- The sign of a number that is not negative. -/
def plusSign (c : Conversion) : List Char :=
  if c.has '+' then ['+'] else if c.has ' ' then [' '] else []

/-- A number behind its sign, filled up with zeros if the conversion says so. -/
def fillNumber (c : Conversion) (sign digits : List Char) : List Char :=
  if c.has '0' && !c.has '-' then
    sign ++ List.replicate (c.width - sign.length - digits.length) '0' ++ digits
  else c.fill (sign ++ digits)

/-- The digits of an integer: at least as many as the precision says. -/
def integerText (c : Conversion) (sign digits : List Char) : List Char :=
  match c.precision with
  | none => c.fillNumber sign digits
  | some least => c.fill (sign ++ List.replicate (least - digits.length) '0' ++ digits)

/-- A text up to the precision of a conversion. -/
def cut (c : Conversion) (cs : List Char) : List Char :=
  match c.precision with
  | none => cs
  | some n => cs.take n

end Conversion

/-- Reads a number, zero if there is none. -/
def readCount (cs : List Char) : Nat × List Char :=
  let (digits, after) := digitsUpTo asciiDigit? cs.length cs
  (ofDigits 10 digits, after)

/-- What is wrong with an argument that should be a number. -/
inductive NumberFault where
  | notNumber
  /-- Something follows the number. -/
  | incomplete
deriving DecidableEq, Repr

/-- The digits of a number by its prefix: hexadecimal, octal or decimal. -/
def readMagnitude (cs : List Char) : List Nat × Nat × List Char :=
  let read (base : Nat) (digit? : Char → Option Nat) (cs : List Char) :
      List Nat × Nat × List Char :=
    let (digits, after) := digitsUpTo digit? cs.length cs
    (digits, base, after)
  match cs with
  | '0' :: 'x' :: rest | '0' :: 'X' :: rest => read 16 hexDigit? rest
  | '0' :: _ => read 8 octalDigit? cs
  | cs => read 10 asciiDigit? cs

/-- The integer that an argument denotes, zero for an empty one, and what is wrong with it.  A
character after a quotation mark denotes its number. -/
def integerArgument (argument : String) : Int × Option NumberFault :=
  match argument.toList with
  | [] => (0, none)
  | '\x27' :: c :: _ | '\x22' :: c :: _ => (c.toNat, none)
  | cs =>
    let (negative, body) := match cs.dropWhile (· == ' ') with
      | '-' :: body => (true, body)
      | '+' :: body => (false, body)
      | body => (false, body)
    let (digits, base, after) := readMagnitude body
    let n : Int := ofDigits base digits
    (if negative then -n else n,
      if digits.isEmpty then some .notNumber
      else if after.isEmpty then none else some .incomplete)

/-- A number with some places after the point, to the nearest, ties to even. -/
def fixedPoint (numerator denominator places : Nat) : List Char :=
  let scaled := numerator * Nat.pow 10 places
  let quotient := scaled / denominator
  let twice := 2 * (scaled % denominator)
  let rounded :=
    if denominator < twice ∨ (denominator = twice ∧ quotient % 2 = 1) then quotient + 1
    else quotient
  let digits := Nat.toDigits 10 rounded
  let digits := List.replicate (places + 1 - digits.length) '0' ++ digits
  let whole := digits.take (digits.length - places)
  if places = 0 then whole else whole ++ '.' :: digits.drop (digits.length - places)

/-- What a conversion makes of an argument. -/
structure Converted where
  output : List Char
  fault : Option NumberFault
  /-- Nothing is written after it. -/
  isLast : Bool

namespace Conversion

/-- A signed number. -/
def signedText (c : Conversion) (n : Int) : List Char :=
  c.integerText (if n < 0 then ['-'] else c.plusSign) (Nat.toDigits 10 n.natAbs)

/-- A number without a sign, which wraps around at 64 bits. -/
def unsignedText (c : Conversion) (base : Nat) (mark : List Char) (n : Int) : List Char :=
  c.integerText (if c.has '#' && n ≠ 0 then mark else [])
    (Nat.toDigits base (n % 0x10000000000000000).toNat)

/-- A number with a point. -/
def realText (c : Conversion) (argument : String) : List Char × Option NumberFault :=
  match readReal argument with
  | none => (c.fillNumber c.plusSign (fixedPoint 0 1 (c.precision.getD 6)),
      if argument = "" then none else some .notNumber)
  | some x =>
    let (numerator, denominator) := x.ratio
    (c.fillNumber (if x.isNegative then ['-'] else c.plusSign)
      (fixedPoint numerator denominator (c.precision.getD 6)), none)

/-- What a conversion makes of an argument; nothing if there is no such conversion. -/
def convert? (dialect : Dialect) (c : Conversion) (argument : String) : Option Converted :=
  let text := byteChars argument
  let (n, fault) := integerArgument argument
  match c.letter with
  | 's' => some ⟨c.fill (c.cut text), none, false⟩
  | 'b' => some ⟨c.fill (c.cut (unescaped dialect text.length text)), none, endsOutput text⟩
  | 'c' => some ⟨c.fill [text.headD '\x00'], none, false⟩
  | 'd' | 'i' => some ⟨c.signedText n, fault, false⟩
  | 'u' => some ⟨c.unsignedText 10 [] n, fault, false⟩
  | 'o' => some ⟨c.unsignedText 8 ['0'] n, fault, false⟩
  | 'x' => some ⟨c.unsignedText 16 ['0', 'x'] n, fault, false⟩
  | 'X' =>
    let upper := (c.unsignedText 16 ['0', 'x'] n).map Char.toUpper
    some ⟨upper, fault, false⟩
  | 'f' | 'F' =>
    let (output, fault) := c.realText argument
    some ⟨output, fault, false⟩
  | _ => none

end Conversion

/-- A conversion that is read, with the argument that it takes. -/
structure Directive where
  /-- The conversion as it is written, without its percent sign. -/
  text : List Char
  conversion : Option Conversion
  arguments : List String
  rest : List Char

/-- Reads a width or a precision, which a star takes from the arguments. -/
def readField (cs : List Char) (arguments : List String) : Int × List Char × List String :=
  match cs with
  | '*' :: rest => ((integerArgument (arguments.headD "")).1, rest, arguments.tail)
  | cs =>
    let (n, rest) := readCount cs
    (n, rest, arguments)

/-- Reads a conversion, whose percent sign is dropped. -/
def readDirective (dialect : Dialect) (cs : List Char) (arguments : List String) : Directive :=
  let flags := cs.takeWhile "-+ #0".toList.contains
  let (width, rest, arguments) := readField (cs.dropWhile "-+ #0".toList.contains) arguments
  let (precision, rest, arguments) := match rest with
    | '.' :: more =>
      let (n, rest, arguments) := readField more arguments
      (some n.toNat, rest, arguments)
    | rest => (none, rest, arguments)
  let rest := if dialect.isStandalone then rest.dropWhile "hlLjzt".toList.contains else rest
  let text := cs.take (cs.length - rest.length)
  match rest with
  | [] => ⟨text, none, arguments, []⟩
  | letter :: after =>
    ⟨text ++ [letter],
      some ⟨if width < 0 then '-' :: flags else flags, width.natAbs, precision, letter⟩,
      arguments, after⟩

/-! ## Formats -/

/-- What a use of a format gives. -/
structure Formatted where
  output : List Char
  /-- The arguments that are no numbers but should be, and what is wrong with them. -/
  faults : List (String × NumberFault)
  /-- The arguments that are left. -/
  left : List String
  /-- Whether the format has a conversion. -/
  converts : Bool
  /-- Nothing is written after it. -/
  isLast : Bool
  /-- A conversion that is none. -/
  invalid : Option (List Char)

namespace Formatted

/-- A use that writes nothing. -/
def unused (arguments : List String) : Formatted := ⟨[], [], arguments, false, false, none⟩

/-- The result with some more output in front. -/
def after (cs : List Char) (f : Formatted) : Formatted := { f with output := cs ++ f.output }

/-- A use that stops at a conversion that is none. -/
def stoppedAt (text : List Char) : Formatted := ⟨[], [], [], true, true, some text⟩

/-- Two results, the second after the first. -/
def append (first second : Formatted) : Formatted where
  output := first.output ++ second.output
  faults := first.faults ++ second.faults
  left := second.left
  converts := true
  isLast := second.isLast
  invalid := second.invalid

end Formatted

/-- Uses a format once; the measure bounds its length. -/
def formatOnce (dialect : Dialect) : Nat → List Char → List String → Formatted
  | 0, _, arguments => .unused arguments
  | _, [], arguments => .unused arguments
  | measure + 1, '\\' :: rest, arguments =>
    if dialect.isStandalone && rest.head? == some 'c' then
      { Formatted.unused [] with isLast := true }
    else
      let (cs, after) := escape dialect rest
      (formatOnce dialect measure after arguments).after cs
  | measure + 1, '%' :: '%' :: rest, arguments =>
    (formatOnce dialect measure rest arguments).after ['%']
  | measure + 1, '%' :: rest, arguments =>
    let directive := readDirective dialect rest arguments
    let argument := directive.arguments.headD ""
    match directive.conversion.bind fun c => c.convert? dialect argument with
    | none => .stoppedAt directive.text
    | some converted =>
      let first : Formatted :=
        ⟨converted.output, (converted.fault.map fun fault => (argument, fault)).toList, [], true,
          true, none⟩
      if converted.isLast then first
      else first.append (formatOnce dialect measure directive.rest directive.arguments.tail)
  | measure + 1, c :: rest, arguments => (formatOnce dialect measure rest arguments).after [c]

/-- Uses a format until no argument is left; the measure bounds the number of uses. -/
def formatAll (dialect : Dialect) (format : List Char) : Nat → List String → Formatted
  | 0, arguments => formatOnce dialect format.length format arguments
  | uses + 1, arguments =>
    let first := formatOnce dialect format.length format arguments
    if first.left.isEmpty || !first.converts || first.isLast then first
    else first.append (formatAll dialect format uses first.left)

end PostgresAccess.Program
