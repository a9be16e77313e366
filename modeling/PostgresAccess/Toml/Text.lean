import PostgresAccess.Toml.Fault

/-!
# Texts, comments and keys of a TOML document

The readers of what is written character by character.  A text stands between double marks, with
escapes, or between single marks, as it is; three marks enclose a text of several lines.  Control
characters other than the tab must not stand in a text or a comment, except the line feeds of a text
of several lines.
-/

namespace PostgresAccess.Toml

open Text (hexDigit? ofDigits)

/-- White space within a line. -/
def isLineBlank (c : Char) : Bool := c == ' ' || c == '\t'

/-- Drops the white space within a line. -/
def skipBlanks (cs : List Char) : List Char := cs.dropWhile isLineBlank

/-- Drops white space and line feeds. -/
def skipLines (cs : List Char) : List Char := cs.dropWhile fun c => isLineBlank c || c == '\n'

/-- A control character that must not stand in a line. -/
def isIllegal (c : Char) : Bool := (c.toNat < 32 && c ≠ '\t') || c.toNat = 127

/-- A control character that must not stand in a text of several lines. -/
def isIllegalInLines (c : Char) : Bool := isIllegal c && c ≠ '\n'

/-- Splits a text ahead of the first occurrence of a mark; the characters passed so far come latest
first. -/
def splitAhead (mark : List Char) (passed : List Char) : List Char →
    Option (List Char × List Char)
  | [] => if mark.isEmpty then some (passed.reverse, []) else none
  | c :: rest =>
    if mark.isPrefixOf (c :: rest) then some (passed.reverse, c :: rest)
    else splitAhead mark (c :: passed) rest

/-- Fails at the first character of a class, if there is one among some characters that a rest of
the document follows. -/
def refuse (illegal : Char → Bool) (cs rest : List Char) : Except Fault Unit :=
  match cs.dropWhile fun c => !illegal c with
  | [] => .ok ()
  | c :: later => .error ⟨.invalidCharacter c, (c :: later).length + rest.length⟩

/-- The characters up to a mark that has to come, and what follows the mark. -/
def readUntil (mark : List Char) (illegal : Char → Bool) (cs : List Char) :
    Except Fault (List Char × List Char) := do
  match splitAhead mark [] cs with
  | none => fail (.expected (String.ofList mark)) []
  | some (text, rest) =>
    refuse illegal text rest
    return (text, rest.drop mark.length)

/-- Drops a comment, up to the end of its line. -/
def skipComment (cs : List Char) : Except Fault (List Char) :=
  match cs with
  | '#' :: rest => do
    let comment := rest.takeWhile (· ≠ '\n')
    let after := rest.dropWhile (· ≠ '\n')
    refuse isIllegal comment after
    return after
  | cs => .ok cs

/-- Drops white space, line feeds and comments; the measure bounds the number of comments. -/
def skipComments : Nat → List Char → Except Fault (List Char)
  | 0, cs => .ok cs
  | measure + 1, cs => do
    let after ← skipComment (skipLines cs)
    if after.length = cs.length then return after else skipComments measure after

/-! ## Texts with escapes -/

/-- The character of a letter after a backslash. -/
def simpleEscape? : Char → Option Char
  | 'b' => some '\x08'
  | 't' => some '\t'
  | 'n' => some '\n'
  | 'f' => some '\x0c'
  | 'r' => some '\r'
  | '\x22' => some '\x22'
  | '\\' => some '\\'
  | _ => none

/-- The character whose number is written with a fixed count of hexadecimal digits. -/
def readCodePoint (width : Nat) (cs : List Char) : Except Fault (Char × List Char) :=
  match (cs.take width).mapM hexDigit? with
  | none => fail .invalidHexadecimal cs
  | some digits =>
    if digits.length ≠ width then fail .invalidHexadecimal cs
    else
      let n := ofDigits 16 digits
      if n.isValidChar then .ok (Char.ofNat n, cs.drop width)
      else fail .notACharacter (cs.drop width)

/-- The end of a line that was broken by a backslash, and the blanks at the start of the next. -/
def readBrokenLine (cs : List Char) : Except Fault (List Char) :=
  match cs with
  | '\n' :: rest => .ok (skipLines rest)
  | cs =>
    match skipBlanks cs with
    | [] => .ok []
    | '\n' :: rest => .ok (skipLines rest)
    | rest => fail .unescapedBackslash rest

/-- What follows a backslash: a character, or nothing for the break of a line. -/
def readEscape (lines : Bool) (cs : List Char) : Except Fault (Option Char × List Char) :=
  match cs with
  | [] => fail .unescapedBackslash []
  | c :: rest =>
    if lines && (isLineBlank c || c == '\n') then
      (readBrokenLine cs).map fun after => (none, after)
    else if c = 'u' then (readCodePoint 4 rest).map fun (c, after) => (some c, after)
    else if c = 'U' then (readCodePoint 8 rest).map fun (c, after) => (some c, after)
    else
      match simpleEscape? c with
      | some escaped => .ok (some escaped, rest)
      | none => fail .unescapedBackslash rest

/-- The rest of a text with escapes, after its opening mark; the characters read so far come latest
first. -/
def readEscaped (lines : Bool) (measure : Nat) (read cs : List Char) :
    Except Fault (List Char × List Char) :=
  match measure, cs with
  | _, [] => fail .unterminatedText []
  | 0, rest => fail .unterminatedText rest
  | measure + 1, c :: rest =>
    if c = '\x22' then
      if !lines then .ok (read.reverse, rest)
      else
        match rest with
        | '\x22' :: '\x22' :: after => .ok (read.reverse, after)
        | _ => readEscaped lines measure (c :: read) rest
    else if c = '\\' then
      match readEscape lines rest with
      | .error fault => .error fault
      | .ok (some escaped, after) => readEscaped lines measure (escaped :: read) after
      | .ok (none, after) => readEscaped lines measure read after
    else if (if lines then isIllegalInLines c else isIllegal c) then
      fail (.illegalCharacter c) (c :: rest)
    else readEscaped lines measure (c :: read) rest

/-! ## Texts of all forms -/

/-- Up to two marks directly after the end of a text of several lines belong to the text. -/
def extraMarks (mark : Char) : List Char → List Char × List Char
  | a :: b :: rest =>
    if a = mark then if b = mark then ([mark, mark], rest) else ([mark], b :: rest)
    else ([], a :: b :: rest)
  | [a] => if a = mark then ([mark], []) else ([], [a])
  | [] => ([], [])

/-- The line feed directly after the opening marks does not belong to the text. -/
def dropFirstLineFeed : List Char → List Char
  | '\n' :: rest => rest
  | cs => cs

/-- A text of several lines, after its opening marks. -/
def readLines (mark : Char) (cs : List Char) : Except Fault (String × List Char) := do
  let cs := dropFirstLineFeed cs
  let (text, rest) ←
    if mark = '\x27' then readUntil [mark, mark, mark] isIllegalInLines cs
    else readEscaped true cs.length [] cs
  let (extra, rest) := extraMarks mark rest
  return (String.ofList (text ++ extra), rest)

/-- A text on one line, after its opening mark. -/
def readLine (mark : Char) (cs : List Char) : Except Fault (String × List Char) := do
  let (text, rest) ←
    if mark = '\x27' then readUntil [mark] isIllegal cs else readEscaped false cs.length [] cs
  return (String.ofList text, rest)

/-! ## Keys -/

/-- A character of a name that is written without marks. -/
def isBareKeyChar (c : Char) : Bool := c.isAlphanum || c == '-' || c == '_'

/-- One name of a key. -/
def readName (cs : List Char) : Except Fault (String × List Char) :=
  match cs with
  | [] => fail .invalidKeyStart []
  | c :: rest =>
    if isBareKeyChar c then
      .ok (String.ofList (cs.takeWhile isBareKeyChar), cs.dropWhile isBareKeyChar)
    else if c = '\x27' ∨ c = '\x22' then readLine c rest
    else fail .invalidKeyStart cs

/-- The names of a key, separated by dots, and the white space after it. -/
def readKey : Nat → List Char → Except Fault (Key × List Char)
  | 0, cs => fail .invalidKeyStart cs
  | measure + 1, cs => do
    let (name, rest) ← readName cs
    match skipBlanks rest with
    | '.' :: more =>
      let (names, rest) ← readKey measure (skipBlanks more)
      return (name :: names, rest)
    | rest => return ([name], rest)

end PostgresAccess.Toml
