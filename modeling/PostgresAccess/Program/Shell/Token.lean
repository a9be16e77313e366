import PostgresAccess.Program.Shell.Word

/-!
# Tokens of the shell

A script is cut into words, marks and numbers of streams.  A text that follows the line of a
redirection is taken out of the script and becomes a token at the place of the redirection.
-/

namespace PostgresAccess.Program.Shell

open Text (asciiDigit? ofDigits)

/-- What a token is. -/
inductive TokenKind where
  | word (w : Word)
  /-- A mark that separates or joins commands or redirects a stream. -/
  | mark (s : String)
  /-- The number of a stream that is redirected. -/
  | stream (n : Nat)
  /-- A text that a command reads. -/
  | document (w : Word)
  /-- A word that is not read. -/
  | fault (f : WordFault)
deriving DecidableEq, Repr

/-- A token, with the number of its line. -/
structure Token where
  kind : TokenKind
  line : Nat
deriving DecidableEq, Repr

/-- The marks of a script, the longer ones first. -/
def marks : List String :=
  ["<<-", "&&", "||", ";;", ">>", ">&", ">|", "<&", "<<", ";", "&", "|", "(", ")", ">", "<"]

/-- The number of a stream, which a redirection follows directly. -/
def streamNumber? (cs : List Char) : Option (Nat × List Char) :=
  let digits := cs.takeWhile Char.isDigit
  match cs.dropWhile Char.isDigit with
  | c :: rest =>
    if !digits.isEmpty && (c == '<' || c == '>') then
      (digits.mapM asciiDigit?).map fun ds => (ofDigits 10 ds, c :: rest)
    else none
  | [] => none

/-- Splits a text into the lines of a document up to its last line, and what follows that; the
measure bounds the number of lines. -/
def splitDocument (lastLine : List Char) (dropTabs : Bool) :
    Nat → List Char → List Char × List Char
  | 0, cs => ([], cs)
  | measure + 1, cs =>
    let line := cs.takeWhile (· ≠ '\n')
    let after := (cs.dropWhile (· ≠ '\n')).tail
    let line := if dropTabs then line.dropWhile (· == '\t') else line
    if line = lastLine ∨ cs = [] then ([], after)
    else
      let hasEnd := cs.contains '\n'
      let (body, after) := splitDocument lastLine dropTabs measure after
      (line ++ (if hasEnd then ['\n'] else []) ++ body, after)

/-- The number of line ends of a text. -/
def lineEnds (cs : List Char) : Nat := cs.count '\n'

/-- The tokens of a text, which starts in a line; the measure bounds its length. -/
def tokens : Nat → Nat → List Char → List Token
  | 0, _, _ => []
  | measure + 1, line, cs =>
    match cs with
    | [] => []
    | '\n' :: rest => ⟨.mark "\n", line + 1⟩ :: tokens measure (line + 1) rest
    | '\\' :: '\n' :: rest => tokens measure (line + 1) rest
    | '#' :: rest => tokens measure line (rest.dropWhile (· ≠ '\n'))
    | c :: rest =>
      if c = ' ' ∨ c = '\t' then tokens measure line rest
      else
        match streamNumber? cs, marks.find? fun mark => mark.toList.isPrefixOf cs with
        | some (n, rest), _ => ⟨.stream n, line⟩ :: tokens measure line rest
        | none, some mark =>
          let rest := cs.drop mark.length
          if mark = "<<" ∨ mark = "<<-" then
            match readWord false (rest.length + 1) (rest.dropWhile (· == ' ')) with
            | .error fault => [⟨.fault fault, line + lineEnds rest⟩]
            | .ok (lastLine, rest) =>
              let restOfLine := rest.takeWhile (· ≠ '\n')
              let below := (rest.dropWhile (· ≠ '\n')).tail
              let name := ((fixedText? lastLine).getD "").toList
              let (body, after) := splitDocument name (mark = "<<-") (below.length + 1) below
              let document := if lastLine.any Part.isQuoted then
                  .ok ([.text (String.ofList body) true], [])
                else readQuoted true (body.length + 1) body
              let kind := match document with
                | .ok (w, _) => .document w
                | .error fault => .fault fault
              ⟨kind, line⟩ :: tokens measure line (restOfLine ++ '\n' :: after)
          else ⟨.mark mark, line⟩ :: tokens measure line rest
        | none, none =>
          match readWord false (cs.length + 1) cs with
          | .error fault => [⟨.fault fault, line + lineEnds cs⟩]
          | .ok (word, rest) =>
            let crossed := lineEnds cs - lineEnds rest
            ⟨.word word, line⟩ :: tokens measure (line + crossed) rest

/-- The tokens of a script. -/
def tokensOf (script : String) : List Token :=
  let cs := script.toList
  tokens (cs.length + 1) 1 cs

end PostgresAccess.Program.Shell
