import PostgresAccess.Program.Shell.Expansion

/-!
# Streams of commands

A redirection sends what a command writes somewhere else: to another stream, into a file of the
working directory, or nowhere.  Redirections take effect in order.
-/

namespace PostgresAccess.Program.Shell

/-- Where a stream goes to. -/
inductive Target where
  | channel (channel : Channel)
  | file (path : String)
  | nowhere
deriving DecidableEq, Repr

/-- Where the output and the error output of a command go to. -/
structure Wiring where
  output : Target
  errors : Target

namespace Wiring

/-- The streams as they are. -/
def straight : Wiring := ⟨.channel .stdout, .channel .stderr⟩

/-- The wiring with one stream changed. -/
def set (w : Wiring) (number : Nat) (target : Target) : Wiring :=
  if number = 1 then { w with output := target }
  else if number = 2 then { w with errors := target }
  else w

/-- Where a channel goes to. -/
def target (w : Wiring) : Channel → Target
  | .stdout => w.output
  | .stderr => w.errors

/-- Nothing that is written reaches a channel. -/
def isCutOff (w : Wiring) : Bool :=
  match w.output, w.errors with
  | .channel _, _ | _, .channel _ => false
  | _, _ => true

/-- A write, where it goes to. -/
def deliver (w : Wiring) (write : Write) : Option Write :=
  match w.target write.channel with
  | .channel channel => some { write with channel }
  | .file _ | .nowhere => none

end Wiring

/-- What redirections have led to. -/
structure Setup where
  expansion : Expansion
  wiring : Wiring
  /-- What the command reads, if a redirection says so. -/
  input : Option Source
  /-- The complaint of a redirection that fails. -/
  complaint : Option String

namespace Setup

/-- The target of a file that is written, which is created first. -/
def openFile (s : Setup) (number : Nat) (append : Bool) (path : String) : Setup :=
  let state := s.expansion.state
  let whole := state.scene.path path
  let refuse (reason : String) : Setup :=
    { s with complaint := some ("cannot create " ++ path ++ ": " ++ reason) }
  if path = "/dev/null" then { s with wiring := s.wiring.set number .nowhere }
  else if path = "/dev/stdout" then { s with wiring := s.wiring.set number s.wiring.output }
  else if path = "/dev/stderr" then { s with wiring := s.wiring.set number s.wiring.errors }
  else
    let create (bytes : List UInt8) : Setup :=
      { s with
        expansion := { s.expansion with
          state := { state with files := state.files.put whole bytes } }
        wiring := s.wiring.set number (.file whole) }
    match state.files.walk whole with
    | .ok (.file bytes) => create (if append then bytes else [])
    | .ok _ => refuse "Is a directory"
    | .error .noSuchFile =>
      let parent := Path.root whole ++ "/".intercalate (Path.parts whole).dropLast
      if parent = "" ∨ (state.files.walk parent).isOk then create []
      else refuse "Directory nonexistent"
    | .error fault => refuse fault.words

/-- The source of a file that is read. -/
def readFile (s : Setup) (path : String) : Setup :=
  match s.expansion.state.scene.open path with
  | .ok source => { s with input := some source }
  | .error .noSuchFile => { s with complaint := some ("cannot open " ++ path ++ ": No such file") }
  | .error fault => { s with complaint := some ("cannot open " ++ path ++ ": " ++ fault.words) }

/-- The setup after one more redirection. -/
def add (capture : State → String → Capture) (s : Setup) (r : Redirection) : Setup :=
  if s.complaint.isSome then s
  else
    let textOf (w : Word) : Setup × String :=
      let (e, cs) := s.expansion.text capture w
      ({ s with expansion := e }, unmarked cs)
    match r with
    | .toFile number append target =>
      let (s, path) := textOf target
      s.openFile number append path
    | .toStream number source =>
      if source = 1 then { s with wiring := s.wiring.set number s.wiring.output }
      else if source = 2 then { s with wiring := s.wiring.set number s.wiring.errors }
      else { s with complaint := some (toString source ++ ": Bad file descriptor") }
    | .fromFile source =>
      let (s, path) := textOf source
      s.readFile path
    | .fromText text =>
      let (s, content) := textOf text
      { s with input := some (.ofBytes (Text.Utf8.encode content)) }

end Setup

/-- A run with its streams redirected. -/
def Wiring.apply (w : Wiring) (run : Run) : Run :=
  { run with
    writes := run.writes.filterMap w.deliver
    held := if w.isCutOff then some 0 else run.held }

/-- The files after what a run has written into them. -/
def Wiring.save (w : Wiring) (run : Run) (files : FileTree) : FileTree :=
  run.sorted.foldl (fun files write =>
    match w.target write.channel with
    | .file path =>
      match files.read path with
      | .ok bytes => files.put path (bytes ++ write.bytes)
      | .error _ => files
    | _ => files) files

end PostgresAccess.Program.Shell
