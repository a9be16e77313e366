import PostgresAccess.Program.Option

/-!
# Programs that copy and count

The programs `cat`, `head`, `tail` and `wc` read the files that their operands name, or their input
if there are none.
-/

namespace PostgresAccess.Program

/-- What a small program finds when it starts. -/
structure Scene where
  files : FileTree
  /-- The working directory, relative to that of the files. -/
  directory : String
  input : Source

/-- A path as it is seen from the working directory of the files. -/
def Scene.path (scene : Scene) (path : String) : String :=
  if path = "" ∨ path.toList.head? = some '/' ∨ scene.directory = "" then path
  else scene.directory ++ "/" ++ path

/-- What an operand names: the input, a device or a file. -/
def Scene.open (scene : Scene) (operand : String) : Except FileFault Source :=
  if operand = "-" then .ok scene.input
  else if operand = "/dev/null" then .ok .empty
  else if operand = "/dev/zero" then .ok (.repeating [0])
  else if operand = "/dev/stdin" then .ok scene.input
  else (scene.files.read (scene.path operand)).map .ofFile

/-- The complaint of a program about an operand. -/
def operandComplaint (program operand : String) (fault : FileFault) : Run :=
  .complaining (program ++ ": " ++ operand ++ ": " ++ fault.words) 1

/-- The complaint of a program that opens an operand before it reads it. -/
def openingComplaint (program operand : String) (fault : FileFault) : Run :=
  match fault with
  | .isADirectory =>
    .complaining (program ++ ": error reading '" ++ operand ++ "': " ++ fault.words) 1
  | fault =>
    .complaining (program ++ ": cannot open '" ++ operand ++ "' for reading: " ++ fault.words) 1

/-- The run of parts one after the other, which fails if one of them does, and does not go on after
one that does not end. -/
def inTurn : List Run → Bool → Run
  | [], failed => .silent (if failed then 1 else 0)
  | part :: rest, failed =>
    if part.ends then part.andThen (inTurn rest (failed || part.ending != .exited 0)) else part

/-- The operands of a program, the input if there are none. -/
def operandsOr (operands : List String) : List String :=
  if operands.isEmpty then ["-"] else operands

/-- A run that prints a source. -/
def printingSource (source : Source) : Run :=
  if source.isEndless then
    { Run.printing source.bytes with ending := .flooding source.period }
  else .printing source.bytes

/-- Copies what the operands name. -/
def cat (scene : Scene) (arguments : List String) : Run :=
  withOptions "cat" "u" "" arguments fun _ operands =>
    inTurn ((operandsOr operands).map fun operand =>
      match scene.open operand with
      | .ok source => printingSource source
      | .error fault => operandComplaint "cat" operand fault) false

/-- How much is copied. -/
inductive Amount where
  | bytes (count : Nat)
  | lines (count : Nat)

/-- The first lines of some bytes. -/
def firstLines : Nat → List UInt8 → List UInt8
  | 0, _ => []
  | _, [] => []
  | count + 1, b :: rest =>
    if b = 10 then b :: firstLines count rest else b :: firstLines (count + 1) rest

/-- The last lines of some bytes; the last one need not have an end. -/
def lastLines (count : Nat) (bytes : List UInt8) : List UInt8 :=
  let total := bytes.count 10 + if bytes.getLast?.any (· ≠ 10) then 1 else 0
  bytes.drop (firstLines (total - count) bytes).length

/-- Turns an option of digits, such as `-3`, into that for lines. -/
def linesOption : List String → List String
  | argument :: rest =>
    match argument.toList with
    | '-' :: digits =>
      if !digits.isEmpty && digits.all Char.isDigit then "-n" :: String.ofList digits :: rest
      else argument :: rest
    | _ => argument :: rest
  | [] => []

/-- How much the last of some options says is copied; the text of an option that is no number. -/
def amountOf (settings : List Setting) : Except (Char × String) Amount :=
  match settings.getLast? with
  | none => .ok (.lines 10)
  | some (letter, value) =>
    match countArgument? value with
    | none => .error (letter, value)
    | some count => .ok (if letter = 'c' then .bytes count else .lines count)

/-- A part of an operand that is copied. -/
structure CopiedPart where
  operand : String
  /-- The operand is opened, even if it is not read. -/
  isOpened : Bool
  run : Run

/-- Puts a title above each part of an operand that is opened, and an empty line between two. -/
def titled : List CopiedPart → Bool → List Run
  | [], _ => []
  | part :: rest, first =>
    let name := if part.operand = "-" then "standard input" else part.operand
    let title := (if first then "" else "\n") ++ "==> " ++ name ++ " <==\n"
    (if part.isOpened then [.printing (Text.Utf8.encode title)] else [])
      ++ part.run :: titled rest (first && !part.isOpened)

/-- Copies a part of what each operand names. -/
def copyPart (program : String) (scene : Scene) (arguments : List String)
    (part : Amount → Source → Option (List UInt8)) : Run :=
  withOptions program "" "nc" (linesOption arguments) fun settings operands =>
    match amountOf settings with
    | .error (letter, value) =>
      let what := if letter = 'c' then "bytes" else "lines"
      .complaining (program ++ ": invalid number of " ++ what ++ ": '" ++ value ++ "'") 1
    | .ok amount =>
      let parts : List CopiedPart := (operandsOr operands).map fun (operand : String) =>
        match scene.open operand with
        | .error fault =>
          ⟨operand, fault == .isADirectory, openingComplaint program operand fault⟩
        | .ok source => ⟨operand, true, ((part amount source).map Run.printing).getD .endless⟩
      inTurn (if 1 < parts.length then titled parts true else parts.map CopiedPart.run) false

/-- Copies the beginnings of what the operands name. -/
def head (scene : Scene) (arguments : List String) : Run :=
  copyPart "head" scene arguments fun amount source =>
    match amount with
    | .bytes count => some (source.take count)
    | .lines count =>
      let enough := source.bytes.length + source.period.length * count
      let result := firstLines count (source.take enough)
      if source.isEndless && result.count 10 < count then none else some result

/-- Copies the ends of what the operands name. -/
def tail (scene : Scene) (arguments : List String) : Run :=
  copyPart "tail" scene arguments fun amount source =>
    if source.isEndless then none
    else
      match amount with
      | .bytes count => some (source.bytes.drop (source.bytes.length - count))
      | .lines count => some (lastLines count source.bytes)

/-- The number of words of some bytes. -/
def wordCount (bytes : List UInt8) : Nat :=
  let blank (b : UInt8) : Bool := b = 32 || (9 ≤ b.toNat && b.toNat ≤ 13)
  (bytes.foldl (fun (count, between) b =>
    if blank b then (count, true) else (if between then count + 1 else count, false))
    (0, true)).1

/-- What `wc` counts in some bytes, in the order of its output. -/
def counts (settings : List Setting) (bytes : List UInt8) : List Nat :=
  let counted (letters : List Char) : Bool :=
    settings.isEmpty || settings.any fun setting => letters.contains setting.1
  (if counted ['l'] then [bytes.count 10] else [])
    ++ (if counted ['w'] then [wordCount bytes] else [])
    ++ if counted ['c'] then [bytes.length] else []

/-- A line of counts, each filled up to a width. -/
def countLine (width : Nat) (numbers : List Nat) (name : String) : String :=
  let column (n : Nat) : String :=
    let digits := toString n
    String.ofList (List.replicate (width - digits.length) ' ') ++ digits
  " ".intercalate (numbers.map column) ++ name ++ "\n"

/-- The width of the columns of counts: that of the size of all files, and not less than seven if
something is counted that is no regular file. -/
def columnWidth (opened : List (Except FileFault Source)) : Nat :=
  let sizes := opened.filterMap fun source =>
    match source with
    | .ok source => some source.size
    | .error .isADirectory => some none
    | .error _ => none
  let total := (sizes.map (·.getD 0)).foldl (· + ·) 0
  Nat.max (toString total).length (if sizes.contains none then 7 else 1)

/-- Counts the lines, words or bytes of what the operands name, which are files or the input. -/
def wc (scene : Scene) (arguments : List String) : Run :=
  withOptions "wc" "lwc" "" arguments fun settings operands =>
    let opened := (operandsOr operands).map fun operand => (operand, scene.open operand)
    let numbers := opened.filterMap fun entry =>
      entry.2.toOption.map fun source => counts settings source.bytes
    let columns := (counts settings []).length
    let width :=
      if opened.length = 1 ∧ columns = 1 then 1 else columnWidth (opened.map Prod.snd)
    let line (bytes : List UInt8) (operand : String) : Run :=
      let name := if operands.isEmpty then "" else " " ++ operand
      .printing (Text.Utf8.encode (countLine width (counts settings bytes) name))
    let parts := opened.map fun (operand, source) =>
      match source with
      | .error .isADirectory =>
        inTurn [operandComplaint "wc" operand .isADirectory, line [] operand] true
      | .error fault => operandComplaint "wc" operand fault
      | .ok source => if source.isEndless then .endless else line source.bytes operand
    let totals := List.range columns |>.map fun place =>
      (numbers.map fun row => row.getD place 0).foldl (· + ·) 0
    let total := if 1 < opened.length then
        [Run.printing (Text.Utf8.encode (countLine width totals " total"))]
      else []
    inTurn (parts ++ total) false

end PostgresAccess.Program
