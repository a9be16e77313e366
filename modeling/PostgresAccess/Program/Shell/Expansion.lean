import PostgresAccess.Program.Shell.Arithmetic
import PostgresAccess.Program.Shell.State

/-!
# Expanding words

A word stands for some texts.  Its parameters get their values, its scripts and expressions are
replaced by what they give; what comes of an unquoted part is split, and a text with unquoted stars,
question marks or brackets stands for the names of files that it matches.
-/

namespace PostgresAccess.Program.Shell

/-! ## Texts that are put together -/

/-- Texts that are being put together: those that are whole, the latest first, and the one that may
still grow, whose characters are in reverse. -/
structure Fields where
  whole : List (List Marked)
  open? : Option (List Marked)

namespace Fields

/-- No text. -/
def empty : Fields := ⟨[], none⟩

/-- Lets the open text grow. -/
def append (f : Fields) (cs : List Marked) : Fields :=
  { f with open? := some (cs.reverse ++ f.open?.getD []) }

/-- Ends the open text. -/
def finish (f : Fields) : Fields :=
  match f.open? with
  | none => f
  | some cs => ⟨cs.reverse :: f.whole, none⟩

/-- Appends a character that may split the text. -/
def appendChar (separators : List Char) (f : Fields) (c : Marked) : Fields :=
  if !c.2 && separators.contains c.1 then
    if c.1 == ' ' || c.1 == '\t' || c.1 == '\n' then f.finish else (f.append []).finish
  else f.append [c]

/-- Appends some texts, each of which but the first starts a new one. -/
def appendTexts (f : Fields) : List String → Fields
  | [] => f
  | s :: rest =>
    rest.foldl (fun f s => f.finish.append (markAll true s)) (f.append (markAll true s))

end Fields

/-! ## Parts -/

/-- What a part stands for. -/
inductive Piece where
  /-- A text that is not split. -/
  | fixed (cs : List Marked)
  /-- A text that is split. -/
  | loose (cs : List Marked)
  /-- The arguments, each of its own. -/
  | arguments (values : List String)

/-- The characters of a piece. -/
def Piece.text : Piece → List Marked
  | .fixed cs | .loose cs => cs
  | .arguments values => markAll true (" ".intercalate values)

/-- The text of a piece, which is not split if it was quoted. -/
def pieceOf (quoted : Bool) (s : String) : Piece :=
  if quoted then .fixed (markAll true s) else .loose (markAll false s)

/-- What running a script for its output gives. -/
structure Capture where
  output : List UInt8
  /-- What else the script did. -/
  rest : Run
  status : Nat

/-- What expanding has done so far. -/
structure Expansion where
  state : State
  run : Run
  /-- The complaint that ends the shell. -/
  complaint : Option String
  /-- The exit code of the last script. -/
  status : Option Nat

namespace Expansion

/-- Nothing has been done. -/
def start (state : State) : Expansion := ⟨state, .silent 0, none, none⟩

/-- A fault; the first one stays. -/
def fail (e : Expansion) (complaint : String) : Expansion :=
  { e with complaint := some (e.complaint.getD complaint) }

/-- The output of a script as text, without the line ends at its end. -/
def outputText (bytes : List UInt8) : String :=
  let text := Text.Utf8.decodeLossy (bytes.filter (· ≠ 0))
  String.ofList (text.toList.reverse.dropWhile (· == '\n')).reverse

/-- A text without its double marks, unless they are protected. -/
def withoutMarks : List Char → List Char
  | '\\' :: '\x22' :: rest => '\x22' :: withoutMarks rest
  | '\\' :: c :: rest => '\\' :: c :: withoutMarks rest
  | '\x22' :: rest => withoutMarks rest
  | c :: rest => c :: withoutMarks rest
  | [] => []

/-- The text that a pattern or an operand is written with. -/
def operandWord (operand : String) (quoted : Bool) : Word :=
  let cs := operand.toList
  let read := if quoted then readQuoted true (cs.length + 1) (withoutMarks cs)
    else readWord true (cs.length + 1) cs
  match read with
  | .ok (w, _) => w
  | .error _ => []

/-- What a part stands for; the measure bounds how deep operands are nested. -/
def resolve (capture : State → String → Capture) : Nat → Expansion → Part → Expansion × Piece
  | 0, e, _ => (e, .fixed [])
  | measure + 1, e, part =>
    let textOf (e : Expansion) (w : Word) : Expansion × List Marked :=
      w.foldl (fun (e, cs) part =>
        let (e, piece) := resolve capture measure e part
        (e, cs ++ piece.text)) (e, [])
    match part with
    | .text s quoted => (e, .fixed (markAll quoted s))
    | .output script quoted =>
      let result := capture e.state script
      ({ e with run := e.run.andThen result.rest, status := some result.status },
        pieceOf quoted (outputText result.output))
    | .number expression quoted =>
      let (e, cs) := textOf e (operandWord expression true)
      let text := unmarked cs
      match evaluateExpression e.state.value text with
      | .ok n => (e, pieceOf quoted (toString n))
      | .error fault => (e.fail (fault.message text), pieceOf quoted "")
    | .parameter name change quoted =>
      let value? := e.state.value? name
      let value := value?.getD ""
      match change with
      | .none =>
        if name = "@" ∧ quoted then (e, .arguments e.state.arguments)
        else
          let e := if value?.isNone && e.state.refusesUnset && name != "@" && name != "*" then
              e.fail (name ++ ": parameter not set")
            else e
          (e, pieceOf quoted value)
      | .length =>
        let size := if name = "@" ∨ name = "*" then e.state.arguments.length
          else value.utf8ByteSize
        (e, pieceOf quoted (toString size))
      | .trimmed atEnd longest pattern =>
        let (e, cs) := textOf e (operandWord pattern false)
        let kept := trimMatch (patternOf cs) atEnd longest value.toList
        (e, pieceOf quoted (String.ofList kept))
      | .substitute kind emptyCounts operand =>
        let isMissing := value?.isNone || (emptyCounts && value == "")
        let other (e : Expansion) : Expansion × List Marked :=
          textOf e (operandWord operand quoted)
        match kind with
        | .operand =>
          if isMissing then
            let (e, cs) := other e
            (e, if quoted then .fixed cs else .loose cs)
          else (e, pieceOf quoted value)
        | .alternative =>
          if isMissing then (e, pieceOf quoted "")
          else
            let (e, cs) := other e
            (e, if quoted then .fixed cs else .loose cs)
        | .assigned =>
          if isMissing then
            let (e, cs) := other e
            let text := unmarked cs
            ({ e with state := e.state.setVariable name (some text) }, pieceOf quoted text)
          else (e, pieceOf quoted value)
        | .complaint =>
          if isMissing then
            let (e, cs) := other e
            let text := if cs.isEmpty then "parameter not set" else unmarked cs
            (e.fail (name ++ ": " ++ text), pieceOf quoted "")
          else (e, pieceOf quoted value)
      | .bad => (e.fail "Bad substitution", pieceOf quoted "")

/-- How deep operands may be nested. -/
def maxDepth : Nat := 50

/-! ## Words -/

/-- The characters that a word stands for if it is not split. -/
def text (capture : State → String → Capture) (e : Expansion) (w : Word) :
    Expansion × List Marked :=
  w.foldl (fun (e, cs) part =>
    let (e, piece) := resolve capture maxDepth e part
    (e, cs ++ piece.text)) (e, [])

/-- The names of files that a text stands for if it is a pattern, and the text itself otherwise. -/
def namesOrText (state : State) (cs : List Marked) : List String :=
  if isPattern cs then
    let items := patternOf cs
    let showsHidden := cs.head?.any fun c => c.1 == '.'
    let found := (state.files.names state.directory).filter fun name =>
      matchesAll items name.toList && (showsHidden || name.toList.head? != some '.')
    if found.isEmpty then [unmarked cs] else found.mergeSort fun a b => decide (a ≤ b)
  else [unmarked cs]

/-- The texts that a word stands for. -/
def texts (capture : State → String → Capture) (e : Expansion) (w : Word) :
    Expansion × List String :=
  let (e, fields) := w.foldl (fun (e, fields) part =>
    let (e, piece) := resolve capture maxDepth e part
    (e, match piece with
      | .fixed cs => Fields.append fields cs
      | .loose cs => cs.foldl (Fields.appendChar e.state.separators) fields
      | .arguments values => fields.appendTexts values)) (e, Fields.empty)
  (e, fields.finish.whole.reverse.flatMap (namesOrText e.state))

/-- The texts that some words stand for. -/
def allTexts (capture : State → String → Capture) (e : Expansion) (words : List Word) :
    Expansion × List String :=
  words.foldl (fun (e, values) w =>
    let (e, more) := texts capture e w
    (e, values ++ more)) (e, [])

end Expansion

end PostgresAccess.Program.Shell
