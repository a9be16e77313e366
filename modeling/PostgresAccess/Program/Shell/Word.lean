import PostgresAccess.Text.Digit

/-!
# Words of the shell

A word is put together from texts, parameters, outputs of scripts and values of expressions.
Quotation marks keep a word together and take the meaning of the characters between them.
-/

namespace PostgresAccess.Program.Shell

/-- What takes the place of a parameter. -/
inductive Substitute where
  /-- The operand, if the parameter has no value. -/
  | operand
  /-- The operand, which becomes the value of the parameter, if that has none. -/
  | assigned
  /-- The operand, if the parameter has a value. -/
  | alternative
  /-- A complaint with the operand, if the parameter has no value. -/
  | complaint
deriving DecidableEq, Repr

/-- How the value of a parameter is changed. -/
inductive Change where
  | none
  /-- The number of its bytes. -/
  | length
  /-- Something else may take its place; an empty value may count as none. -/
  | substitute (kind : Substitute) (emptyCounts : Bool) (operand : String)
  /-- The part at its end or its start that a pattern matches is left out. -/
  | trimmed (atEnd longest : Bool) (pattern : String)
  /-- There is no such change. -/
  | bad
deriving DecidableEq, Repr

/-- A part of a word.  What stands for a quoted part is neither split nor taken for a pattern. -/
inductive Part where
  | text (s : String) (quoted : Bool)
  | parameter (name : String) (change : Change) (quoted : Bool)
  /-- The output of a script. -/
  | output (script : String) (quoted : Bool)
  /-- The value of an expression. -/
  | number (expression : String) (quoted : Bool)
deriving DecidableEq, Repr

/-- A word. -/
abbrev Word := List Part

/-- Why a word is not read. -/
inductive WordFault where
  | unterminatedQuotation
  | missingBrace
  | missingParenthesis
  | missingBackquote
deriving DecidableEq, Repr

/-- A character that ends a word. -/
def endsWord (c : Char) : Bool := " \t\n;&|()<>".toList.contains c

/-- A character of the name of a variable. -/
def isNameChar (c : Char) : Bool := c.isAlphanum || c == '_'

/-- The name of a variable at the start of a text, if there is one, and what follows it. -/
def readName (cs : List Char) : Option (String × List Char) :=
  if cs.head?.any fun c => isNameChar c && !c.isDigit then
    some (String.ofList (cs.takeWhile isNameChar), cs.dropWhile isNameChar)
  else none

/-- The text up to a mark after an even number of backslashes. -/
def untilMark (mark : Char) : List Char → Option (List Char × List Char)
  | [] => none
  | '\\' :: c :: rest =>
    (untilMark mark rest).map fun (inside, after) => ('\\' :: c :: inside, after)
  | c :: rest =>
    if c = mark then some ([], rest)
    else (untilMark mark rest).map fun (inside, after) => (c :: inside, after)

/-- The text up to the mark that closes an open one, between which there may be others of both
kinds and quoted texts; the measure bounds its length. -/
def enclosed (opening closing : Char) : Nat → Nat → List Char → Option (List Char × List Char)
  | 0, _, _ => none
  | measure + 1, depth, cs =>
    let keep (taken rest : List Char) (depth : Nat) : Option (List Char × List Char) :=
      (enclosed opening closing measure depth rest).map fun (inside, after) =>
        (taken ++ inside, after)
    match cs with
    | [] => none
    | '\\' :: c :: rest => keep ['\\', c] rest depth
    | '\x27' :: rest => do
      let (inside, rest) ← untilMark '\x27' rest
      keep (['\x27'] ++ inside ++ ['\x27']) rest depth
    | '\x22' :: rest => do
      let (inside, rest) ← untilMark '\x22' rest
      keep (['\x22'] ++ inside ++ ['\x22']) rest depth
    | c :: rest =>
      if c = closing then
        match depth with
        | 0 => some ([], rest)
        | depth + 1 => keep [c] rest depth
      else keep [c] rest (if c = opening then depth + 1 else depth)

/-- The name of a parameter at the start of a text, and what follows it. -/
def readParameterName (cs : List Char) : Option (String × List Char) :=
  match cs with
  | c :: rest =>
    if c.isDigit || "@*#?$!-".toList.contains c then some (c.toString, rest) else readName cs
  | [] => none

/-- What is written between braces behind the name of a parameter. -/
def readChange (cs : List Char) : Change :=
  let substitute? (emptyCounts : Bool) (cs : List Char) : Option Change :=
    match cs with
    | '-' :: operand => some (.substitute .operand emptyCounts (String.ofList operand))
    | '=' :: operand => some (.substitute .assigned emptyCounts (String.ofList operand))
    | '+' :: operand => some (.substitute .alternative emptyCounts (String.ofList operand))
    | '?' :: operand => some (.substitute .complaint emptyCounts (String.ofList operand))
    | _ => none
  match cs with
  | [] => .none
  | ':' :: rest => (substitute? true rest).getD .bad
  | '%' :: '%' :: pattern => .trimmed true true (String.ofList pattern)
  | '%' :: pattern => .trimmed true false (String.ofList pattern)
  | '#' :: '#' :: pattern => .trimmed false true (String.ofList pattern)
  | '#' :: pattern => .trimmed false false (String.ofList pattern)
  | rest => (substitute? false rest).getD .bad

/-- The parameter between braces. -/
def readBraces (inside : List Char) (quoted : Bool) : Part :=
  match inside with
  | '#' :: c :: rest =>
    match readParameterName (c :: rest) with
    | some (name, []) => .parameter name .length quoted
    | _ => .parameter "#" (readChange (c :: rest)) quoted
  | inside =>
    let digits := inside.takeWhile Char.isDigit
    if !digits.isEmpty then
      .parameter (String.ofList digits) (readChange (inside.dropWhile Char.isDigit)) quoted
    else
      match readParameterName inside with
      | some (name, rest) => .parameter name (readChange rest) quoted
      | none => .parameter "" .bad quoted

/-- The part after a dollar sign, and what follows it. -/
def readDollar (cs : List Char) (quoted : Bool) : Except WordFault (Part × List Char) :=
  match cs with
  | '(' :: rest =>
    match enclosed '(' ')' (rest.length + 1) 0 rest with
    | none => .error .missingParenthesis
    | some (inside, after) =>
      match inside, inside.getLast? with
      | '(' :: expression, some ')' =>
        .ok (.number (String.ofList expression.dropLast) quoted, after)
      | inside, _ => .ok (.output (String.ofList inside) quoted, after)
  | '\x7b' :: rest =>
    match enclosed '\x7b' '\x7d' (rest.length + 1) 0 rest with
    | none => .error .missingBrace
    | some (inside, after) => .ok (readBraces inside quoted, after)
  | cs =>
    match readParameterName cs with
    | some (name, after) => .ok (.parameter name .none quoted, after)
    | none => .ok (.text "$" quoted, cs)

/-- Drops the backslashes that protect characters in a script between backquotes. -/
def unprotected (quoted : Bool) : List Char → List Char
  | '\\' :: c :: rest =>
    if c = '\x60' ∨ c = '$' ∨ c = '\\' ∨ (quoted ∧ c = '\x22') then c :: unprotected quoted rest
    else '\\' :: c :: unprotected quoted rest
  | c :: rest => c :: unprotected quoted rest
  | [] => []

/-- The part after a backquote, and what follows it. -/
def readBackquote (cs : List Char) (quoted : Bool) : Except WordFault (Part × List Char) :=
  match untilMark '\x60' cs with
  | none => .error .missingBackquote
  | some (inside, after) => .ok (.output (String.ofList (unprotected quoted inside)) quoted, after)

/-- The parts of a text between double marks, after the opening one, or of a text that goes on to
its end; the measure bounds its length. -/
def readQuoted (toEnd : Bool) : Nat → List Char → Except WordFault (Word × List Char)
  | 0, _ => .error .unterminatedQuotation
  | measure + 1, cs =>
    let more (part : Part) (rest : List Char) : Except WordFault (Word × List Char) :=
      (readQuoted toEnd measure rest).map fun (parts, after) => (part :: parts, after)
    match cs with
    | [] => if toEnd then .ok ([], []) else .error .unterminatedQuotation
    | '\\' :: '\n' :: rest => readQuoted toEnd measure rest
    | '\\' :: c :: rest =>
      let protects := "$\x60\\".toList.contains c || (c == '\x22' && !toEnd)
      more (.text (String.ofList (if protects then [c] else ['\\', c])) true) rest
    | '$' :: rest => do
      let (part, rest) ← readDollar rest true
      more part rest
    | '\x60' :: rest => do
      let (part, rest) ← readBackquote rest (!toEnd)
      more part rest
    | c :: rest => if c = '\x22' ∧ !toEnd then .ok ([], rest) else more (.text c.toString true) rest

/-- The parts of a word, which may be the whole text; the measure bounds its length. -/
def readWord (toEnd : Bool) : Nat → List Char → Except WordFault (Word × List Char)
  | 0, cs => .ok ([], cs)
  | measure + 1, cs =>
    let more (parts : Word) (rest : List Char) : Except WordFault (Word × List Char) :=
      (readWord toEnd measure rest).map fun (later, after) => (parts ++ later, after)
    match cs with
    | [] => .ok ([], [])
    | '\\' :: '\n' :: rest => readWord toEnd measure rest
    | '\\' :: c :: rest => more [.text c.toString true] rest
    | '\x27' :: rest =>
      match rest.dropWhile (· ≠ '\x27') with
      | [] => .error .unterminatedQuotation
      | _ :: after => more [.text (String.ofList (rest.takeWhile (· ≠ '\x27'))) true] after
    | '\x22' :: rest => do
      let (inside, rest) ← readQuoted false (rest.length + 1) rest
      more (if inside.isEmpty then [.text "" true] else inside) rest
    | '$' :: rest => do
      let (part, rest) ← readDollar rest false
      more [part] rest
    | '\x60' :: rest => do
      let (part, rest) ← readBackquote rest false
      more [part] rest
    | c :: rest =>
      if !toEnd && endsWord c then .ok ([], cs) else more [.text c.toString false] rest

/-- The text of a part that is not quoted. -/
def Part.bare? : Part → Option String
  | .text s false => some s
  | _ => none

/-- The text of a part, quoted or not. -/
def Part.text? : Part → Option String
  | .text s _ => some s
  | _ => none

/-- The text of a word of which nothing is quoted. -/
def bareText? (w : Word) : Option String := (w.mapM Part.bare?).map String.join

/-- The text of a word that is the same whenever it is used. -/
def fixedText? (w : Word) : Option String := (w.mapM Part.text?).map String.join

/-- Whether a part is quoted. -/
def Part.isQuoted : Part → Bool
  | .text _ quoted | .parameter _ _ quoted | .output _ quoted | .number _ quoted => quoted

end PostgresAccess.Program.Shell
