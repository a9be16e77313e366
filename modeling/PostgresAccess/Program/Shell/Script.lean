import PostgresAccess.Program.Shell.Token

/-!
# Shell scripts

A command is a simple command of words, a compound one, a part of a pipeline, or two commands of
which the second depends on the first.  `readScript` reads a script line by line, so that a script
with a fault still has the commands of the lines before it.
-/

namespace PostgresAccess.Program.Shell

open Text (asciiDigit? ofDigits)

/-- Where a stream of a command goes to or comes from. -/
inductive Redirection where
  /-- Into the file of a name, after what it holds or in place of it. -/
  | toFile (number : Nat) (append : Bool) (target : Word)
  /-- To where another stream goes. -/
  | toStream (number : Nat) (source : Nat)
  /-- From the file of a name. -/
  | fromFile (source : Word)
  | fromText (text : Word)
deriving DecidableEq, Repr

/-- A command of a script. -/
inductive Command where
  /-- Nothing is to be done. -/
  | nothing
  | simple (line : Nat) (words : List Word) (redirections : List Redirection)
  /-- Two commands, the second of which reads what the first writes. -/
  | pipe (first second : Command)
  | negated (command : Command)
  /-- The second runs only if the first succeeds. -/
  | both (first second : Command)
  /-- The second runs only if the first fails. -/
  | either (first second : Command)
  | sequence (first second : Command)
  /-- A command that runs while the shell goes on. -/
  | background (command : Command)
  | group (command : Command) (redirections : List Redirection)
  /-- A group that does not change the shell. -/
  | subshell (command : Command) (redirections : List Redirection)
  | conditional (condition positive negative : Command)
  /-- The body runs as long as the condition has a given result. -/
  | loop (result : Bool) (condition body : Command)
  /-- The body runs for each of some words, or for each argument. -/
  | each (name : String) (words : Option (List Word)) (body : Command)
  /-- The body runs if the subject matches one of the patterns, and the next choice otherwise. -/
  | choice (subject : Word) (patterns : List Word) (body next : Command)
  /-- A function is defined. -/
  | define (name : String) (body : Command)
deriving DecidableEq, Repr

/-- Why a text is no script. -/
inductive ScriptFault where
  | word (fault : WordFault)
  /-- Something else was expected, or nothing of the kind. -/
  | unexpected (token : String) (expected : Option String)
  | badStream
  | badLoopVariable
  | badFunctionName
deriving DecidableEq, Repr

/-- The words for a fault. -/
def ScriptFault.message (fault : ScriptFault) : String :=
  "Syntax error: " ++
    match fault with
    | .word .unterminatedQuotation => "Unterminated quoted string"
    | .word .missingBrace => "Missing '\x7d'"
    | .word .missingParenthesis => "end of file unexpected (expecting \")\")"
    | .word .missingBackquote => "EOF in backquote substitution"
    | .unexpected token none => token ++ " unexpected"
    | .unexpected token (some expected) =>
      token ++ " unexpected (expecting \"" ++ expected ++ "\")"
    | .badStream => "Bad fd number"
    | .badLoopVariable => "Bad for loop variable"
    | .badFunctionName => "Bad function name"

/-- A fault in a line. -/
structure LineFault where
  fault : ScriptFault
  line : Nat
deriving DecidableEq, Repr

/-- What reading some tokens gives. -/
abbrev Reading := Except LineFault

/-- The words that have a meaning at the start of a command. -/
def reservedWords : List String :=
  ["!", "case", "do", "done", "elif", "else", "esac", "fi", "for", "if", "in", "then", "until",
    "while", "\x7b", "\x7d"]

/-- The words that end a list of commands. -/
def closingWords : List String := ["do", "done", "elif", "else", "esac", "fi", "then", "\x7d"]

namespace Token

/-- The token is a mark. -/
def isMark (s : String) (t : Token) : Bool := t.kind == .mark s

/-- The word that the token is, if nothing of it is quoted and it stays the same. -/
def bare? (t : Token) : Option String :=
  match t.kind with
  | .word w => bareText? w
  | _ => none

/-- The token is a given reserved word. -/
def isReserved (name : String) (t : Token) : Bool := t.bare? == some name

/-- The token in messages. -/
def display (t : Token) : String :=
  match t.kind with
  | .word _ =>
    match t.bare? with
    | some s => if reservedWords.contains s then "\"" ++ s ++ "\"" else "word"
    | none => "word"
  | .stream _ | .document _ | .fault _ => "redirection"
  | .mark "\n" => "newline"
  | .mark s => "\"" ++ s ++ "\""

/-- The token ends a list of commands. -/
def closes (t : Token) : Bool :=
  t.isMark ")" || t.isMark ";;" || closingWords.any fun name => t.isReserved name

end Token

/-- The fault of some tokens, of which something else was expected. -/
def faultAt (last : Nat) (expected : Option String) : List Token → LineFault
  | [] => ⟨.unexpected "end of file" expected, last⟩
  | t :: _ =>
    match t.kind with
    | .fault fault => ⟨.word fault, t.line⟩
    | _ => ⟨.unexpected t.display expected, t.line⟩

/-- Drops line ends. -/
def skipLineEnds (ts : List Token) : List Token := ts.dropWhile (·.isMark "\n")

/-! ## Redirections -/

/-- Whether a mark redirects a stream. -/
def isRedirection (mark : String) : Bool := [">", ">>", ">&", ">|", "<", "<&"].contains mark

/-- The number of the stream of a redirection mark, if none is given. -/
def defaultStream (mark : String) : Nat := if mark.toList.head? = some '<' then 0 else 1

/-- The redirection of a mark and the word after it. -/
def redirection (number : Nat) (mark : String) (w : Word) : Except ScriptFault Redirection :=
  match mark with
  | ">&" | "<&" =>
    match (bareText? w).bind fun s => s.toList.mapM asciiDigit? with
    | some digits => .ok (.toStream number (ofDigits 10 digits))
    | none => .error .badStream
  | "<" => .ok (.fromFile w)
  | ">>" => .ok (.toFile number true w)
  | _ => .ok (.toFile number false w)

/-- A redirection at the start of some tokens, if there is one. -/
def readRedirection (last : Nat) (ts : List Token) : Reading (Option (Redirection × List Token)) :=
  let (number, body) := match ts with
    | ⟨.stream n, _⟩ :: rest => (some n, rest)
    | ts => (none, ts)
  match body with
  | ⟨.document w, _⟩ :: rest => .ok (some (.fromText w, rest))
  | ⟨.mark mark, line⟩ :: rest =>
    if isRedirection mark then
      match rest with
      | ⟨.word w, _⟩ :: rest =>
        match redirection (number.getD (defaultStream mark)) mark w with
        | .ok r => .ok (some (r, rest))
        | .error fault => .error ⟨fault, line⟩
      | rest => .error (faultAt last none rest)
    else .ok none
  | _ => .ok none

/-- The redirections at the start of some tokens; the measure bounds their number. -/
def readRedirections (last : Nat) : Nat → List Token → Reading (List Redirection × List Token)
  | 0, ts => .ok ([], ts)
  | measure + 1, ts => do
    match ← readRedirection last ts with
    | none => return ([], ts)
    | some (r, rest) =>
      let (more, after) ← readRedirections last measure rest
      return (r :: more, after)

/-- The words and redirections of a simple command; the measure bounds their number. -/
def readSimple (last : Nat) :
    Nat → List Token → Reading ((List Word × List Redirection) × List Token)
  | 0, ts => .ok (([], []), ts)
  | measure + 1, ts => do
    match ← readRedirection last ts with
    | some (r, rest) =>
      let ((words, rs), after) ← readSimple last measure rest
      return ((words, r :: rs), after)
    | none =>
      match ts with
      | ⟨.word w, _⟩ :: rest =>
        let ((words, rs), after) ← readSimple last measure rest
        return ((w :: words, rs), after)
      | ⟨.fault fault, line⟩ :: _ => throw ⟨.word fault, line⟩
      | ts => return (([], []), ts)

/-! ## Commands -/

/-- The tokens after a word that has to come next. -/
def expectWord (last : Nat) (name : String) (ts : List Token) : Reading (List Token) :=
  match ts with
  | t :: rest => if t.isReserved name then .ok rest else .error (faultAt last (some name) ts)
  | [] => .error (faultAt last (some name) [])

/-- The tokens after a mark that has to come next. -/
def expectMark (last : Nat) (mark : String) (ts : List Token) : Reading (List Token) :=
  match ts with
  | t :: rest => if t.isMark mark then .ok rest else .error (faultAt last (some mark) ts)
  | [] => .error (faultAt last (some mark) [])

/-- The words at the start of some tokens. -/
def wordsOf : List Token → List Word × List Token
  | ⟨.word w, _⟩ :: rest =>
    let (words, after) := wordsOf rest
    (w :: words, after)
  | ts => ([], ts)

/-- The patterns of a choice up to the parenthesis; the measure bounds their number. -/
def readPatterns (last : Nat) : Nat → List Token → Reading (List Word × List Token)
  | 0, ts => .error (faultAt last (some ")") ts)
  | measure + 1, ts =>
    match ts with
    | ⟨.word w, _⟩ :: t :: rest =>
      if t.isMark ")" then .ok ([w], rest)
      else if t.isMark "|" then do
        let (more, after) ← readPatterns last measure rest
        return (w :: more, after)
      else .error (faultAt last (some ")") (t :: rest))
    | ⟨.word _, _⟩ :: [] => .error (faultAt last (some ")") [])
    | ts => .error (faultAt last (some ")") ts)

/-- A command followed by another one. -/
def Command.followedBy (first second : Command) : Command :=
  if second = .nothing then first else .sequence first second

mutual

/-- A command that is no pipeline. -/
def readCommand (last : Nat) : Nat → List Token → Reading (Command × List Token)
  | 0, ts => .error (faultAt last none ts)
  | measure + 1, ts =>
    match ts with
    | [] => .error (faultAt last none [])
    | t :: rest =>
      if t.isMark "(" then do
        let (inside, rest) ← readBody last measure rest
        let rest ← expectMark last ")" rest
        let (redirections, after) ← readRedirections last rest.length rest
        return (.subshell inside redirections, after)
      else
        match readCompound last measure t rest with
        | some reading => do
          let (command, rest) ← reading
          let (redirections, after) ← readRedirections last rest.length rest
          return (if redirections.isEmpty then command else .group command redirections, after)
        | none =>
          if t.closes || t.isReserved "in" || t.isReserved "!" then .error (faultAt last none ts)
          else
            match t, rest with
            | ⟨.word w, line⟩, next :: later =>
              if next.isMark "(" then do
                let later ← expectMark last ")" later
                match (bareText? w).bind fun s => readName s.toList with
                | some (name, []) =>
                  let (body, after) ← readCommand last measure (skipLineEnds later)
                  return (.define name body, after)
                | _ => throw ⟨.badFunctionName, line⟩
              else readSimpleCommand last ts
            | _, _ => readSimpleCommand last ts

/-- A simple command. -/
def readSimpleCommand (last : Nat) (ts : List Token) : Reading (Command × List Token) := do
  let ((words, redirections), after) ← readSimple last ts.length ts
  if words.isEmpty && redirections.isEmpty then throw (faultAt last none ts)
  else return (.simple ((ts.head?.map Token.line).getD last) words redirections, after)

/-- A compound command that starts with a reserved word. -/
def readCompound (last : Nat) : Nat → Token → List Token → Option (Reading (Command × List Token))
  | 0, _, _ => none
  | measure + 1, t, rest =>
    if t.isReserved "\x7b" then some do
      let (inside, rest) ← readBody last measure rest
      let rest ← expectWord last "\x7d" rest
      return (.group inside [], rest)
    else if t.isReserved "if" then some (readConditional last measure rest)
    else if t.isReserved "while" then some (readLoop last measure true rest)
    else if t.isReserved "until" then some (readLoop last measure false rest)
    else if t.isReserved "for" then some (readEach last measure t.line rest)
    else if t.isReserved "case" then some (readChoice last measure rest)
    else none

/-- A conditional, after its first word. -/
def readConditional (last : Nat) : Nat → List Token → Reading (Command × List Token)
  | 0, ts => .error (faultAt last none ts)
  | measure + 1, ts => do
    let (condition, rest) ← readBody last measure ts
    let rest ← expectWord last "then" rest
    let (positive, rest) ← readBody last measure rest
    match rest with
    | t :: later =>
      if t.isReserved "elif" then
        let (negative, after) ← readConditional last measure later
        return (.conditional condition positive negative, after)
      else if t.isReserved "else" then
        let (negative, rest) ← readBody last measure later
        return (.conditional condition positive negative, ← expectWord last "fi" rest)
      else return (.conditional condition positive .nothing, ← expectWord last "fi" rest)
    | [] => throw (faultAt last (some "fi") [])

/-- A loop, after its first word. -/
def readLoop (last : Nat) : Nat → Bool → List Token → Reading (Command × List Token)
  | 0, _, ts => .error (faultAt last none ts)
  | measure + 1, result, ts => do
    let (condition, rest) ← readBody last measure ts
    let (body, rest) ← readBlock last measure rest
    return (.loop result condition body, rest)

/-- The commands between `do` and `done`. -/
def readBlock (last : Nat) : Nat → List Token → Reading (Command × List Token)
  | 0, ts => .error (faultAt last none ts)
  | measure + 1, ts => do
    let rest ← expectWord last "do" ts
    let (body, rest) ← readBody last measure rest
    return (body, ← expectWord last "done" rest)

/-- A loop over words, after its first word. -/
def readEach (last : Nat) : Nat → Nat → List Token → Reading (Command × List Token)
  | 0, _, ts => .error (faultAt last none ts)
  | measure + 1, line, ts => do
    match (ts.head?.bind Token.bare?).bind fun s => readName s.toList with
    | some (name, []) =>
      let afterName := skipLineEnds ts.tail
      match afterName with
      | t :: rest =>
        if t.isReserved "in" then
          let (words, rest) := wordsOf rest
          let rest := if rest.head?.any (·.isMark ";") then rest.tail else rest
          let (body, after) ← readBlock last measure (skipLineEnds rest)
          return (.each name (some words) body, after)
        else
          let rest := if t.isMark ";" then rest else afterName
          let (body, after) ← readBlock last measure (skipLineEnds rest)
          return (.each name none body, after)
      | [] => throw (faultAt last (some "do") [])
    | _ => throw ⟨.badLoopVariable, line⟩

/-- A choice, after its first word. -/
def readChoice (last : Nat) : Nat → List Token → Reading (Command × List Token)
  | 0, ts => .error (faultAt last none ts)
  | measure + 1, ts =>
    match ts with
    | ⟨.word subject, _⟩ :: rest => do
      let rest ← expectWord last "in" (skipLineEnds rest)
      readBranches last measure subject (skipLineEnds rest)
    | ts => .error (faultAt last none ts)

/-- The branches of a choice. -/
def readBranches (last : Nat) : Nat → Word → List Token → Reading (Command × List Token)
  | 0, _, ts => .error (faultAt last none ts)
  | measure + 1, subject, ts =>
    match ts with
    | [] => .error (faultAt last (some ")") [])
    | t :: rest =>
      if t.isReserved "esac" then .ok (.nothing, rest)
      else do
        let (patterns, rest) ← readPatterns last ts.length (if t.isMark "(" then rest else ts)
        let (body, rest) ← readList last measure rest
        match rest with
        | t :: later =>
          if t.isReserved "esac" then return (.choice subject patterns body .nothing, later)
          else if t.isMark ";;" then
            let (next, after) ← readBranches last measure subject (skipLineEnds later)
            return (.choice subject patterns body next, after)
          else throw (faultAt last (some ";;") rest)
        | [] => throw (faultAt last (some ";;") [])

/-- A pipeline that does not start with a negation. -/
def readPipeline (last : Nat) : Nat → List Token → Reading (Command × List Token)
  | 0, ts => .error (faultAt last none ts)
  | measure + 1, ts => do
    let (first, rest) ← readCommand last measure ts
    match rest with
    | t :: later =>
      if t.isMark "|" then
        let (second, after) ← readPipeline last measure (skipLineEnds later)
        return (.pipe first second, after)
      else return (first, rest)
    | [] => return (first, [])

/-- A pipeline, which may be negated. -/
def readNegation (last : Nat) : Nat → List Token → Reading (Command × List Token)
  | 0, ts => .error (faultAt last none ts)
  | measure + 1, ts =>
    match ts with
    | t :: rest =>
      if t.isReserved "!" then do
        let (command, after) ← readPipeline last measure rest
        return (.negated command, after)
      else readPipeline last measure ts
    | [] => .error (faultAt last none [])

/-- The pipelines after a first one, each joined to those before by a condition. -/
def readConditions (last : Nat) : Nat → Command → List Token → Reading (Command × List Token)
  | 0, first, ts => .ok (first, ts)
  | measure + 1, first, ts =>
    match ts with
    | t :: rest =>
      if t.isMark "&&" then do
        let (second, after) ← readNegation last measure (skipLineEnds rest)
        readConditions last measure (.both first second) after
      else if t.isMark "||" then do
        let (second, after) ← readNegation last measure (skipLineEnds rest)
        readConditions last measure (.either first second) after
      else .ok (first, ts)
    | [] => .ok (first, [])

/-- Commands joined by conditions, which run in the background if a mark says so. -/
def readStatement (last : Nat) : Nat → List Token → Reading (Command × List Token)
  | 0, ts => .error (faultAt last none ts)
  | measure + 1, ts => do
    let (first, rest) ← readNegation last measure ts
    let (command, rest) ← readConditions last measure first rest
    match rest with
    | t :: later =>
      if t.isMark "&" then return (.background command, later)
      else if t.isMark ";" then return (command, later)
      else if t.isMark "\n" || t.closes then return (command, rest)
      else throw (faultAt last none rest)
    | [] => return (command, [])

/-- A list of commands, up to the end of the tokens or a token that closes it. -/
def readList (last : Nat) : Nat → List Token → Reading (Command × List Token)
  | 0, ts => .error (faultAt last none ts)
  | measure + 1, ts =>
    match skipLineEnds ts with
    | [] => .ok (.nothing, [])
    | t :: rest =>
      if t.closes then .ok (.nothing, t :: rest)
      else do
        let (first, later) ← readStatement last measure (t :: rest)
        let continues := (t :: rest).length - later.length ≠ 0 && !later.isEmpty
        if continues then
          let (second, after) ← readList last measure later
          return (first.followedBy second, after)
        else return (first, later)

/-- A list of commands, which is empty only at the end of the tokens. -/
def readBody (last : Nat) : Nat → List Token → Reading (Command × List Token)
  | 0, ts => .error (faultAt last none ts)
  | measure + 1, ts => do
    let (command, rest) ← readList last measure ts
    if command = .nothing && !rest.isEmpty then throw (faultAt last none rest)
    else return (command, rest)

end

/-- A script: the commands of its lines, and the fault after them if there is one. -/
structure Script where
  lines : List Command
  fault : Option LineFault

/-- The commands up to the end of a line; the measure bounds their number. -/
def readLine (last depth : Nat) : Nat → List Token → Reading (Command × List Token)
  | 0, ts => .ok (.nothing, ts)
  | measure + 1, ts =>
    match ts with
    | [] => .ok (.nothing, [])
    | t :: rest =>
      if t.isMark "\n" then .ok (.nothing, rest)
      else do
        let (first, later) ← readStatement last depth ts
        let (second, after) ← readLine last depth measure later
        return (first.followedBy second, after)

/-- The lines of a script; the measure bounds their number. -/
def readLines (last depth : Nat) : Nat → List Token → Script
  | 0, _ => ⟨[], none⟩
  | measure + 1, ts =>
    match skipLineEnds ts with
    | [] => ⟨[], none⟩
    | ts =>
      match readLine last depth ts.length ts with
      | .error fault => ⟨[], some fault⟩
      | .ok (command, rest) =>
        let script := readLines last depth measure rest
        { script with lines := command :: script.lines }

/-- Reads a script. -/
def readScript (script : String) : Script :=
  let ts := tokensOf script
  readLines (1 + lineEnds script.toList) (8 * ts.length + 8) (ts.length + 1) ts

end PostgresAccess.Program.Shell
