import PostgresAccess.Program.Copying
import PostgresAccess.Program.Shell.Pattern
import PostgresAccess.Program.Shell.Script

/-!
# The state of a shell

What a shell keeps between two commands, and the values that its parameters have.
-/

namespace PostgresAccess.Program.Shell

/-- What a shell keeps between two commands. -/
structure State where
  /-- The name of the shell in messages. -/
  name : String
  /-- The line of the command. -/
  line : Nat
  arguments : List String
  bindings : List (String × String)
  /-- The variables that programs see, by their names. -/
  exported : List String
  /-- The variables that a function will set back, with their values before it. -/
  saved : List (String × Option String)
  functions : List (String × Command)
  /-- How many loops are running. -/
  loops : Nat
  /-- The exit code of the last command. -/
  status : Nat
  /-- The time since the shell started. -/
  clock : Nat
  /-- When the last command in the background will have ended. -/
  jobs : Moment
  files : FileTree
  /-- The working directory, relative to that of the files. -/
  directory : String
  /-- What is left of the input. -/
  input : Source
  /-- The redirections that hold for every command. -/
  standing : List Redirection
  /-- The shell ends when a command fails. -/
  endsAtFailure : Bool
  /-- A parameter without a value is a fault. -/
  refusesUnset : Bool
  /-- What is done when a signal comes, by its number; zero stands for the end of the shell. -/
  traps : List (Nat × String)

/-- The process number of a shell, as far as the shell itself needs it. -/
def ownProcess : String := toString processNumber

namespace State

/-- What messages start with. -/
def label (state : State) : String := state.name ++ ": " ++ toString state.line

/-- What a program finds. -/
def scene (state : State) : Scene := ⟨state.files, state.directory, state.input⟩

/-- The value of a variable. -/
def lookup? (state : State) (name : String) : Option String :=
  (state.bindings.find? fun v => v.1 == name).map Prod.snd

/-- The state with a variable set, or without it. -/
def setVariable (state : State) (name : String) (value : Option String) : State :=
  let others := state.bindings.filter fun v => v.1 != name
  { state with bindings := match value with
      | some value => (name, value) :: others
      | none => others }

/-- The value of a parameter, if it has one. -/
def value? (state : State) (name : String) : Option String :=
  match name with
  | "0" => some state.name
  | "?" => some (toString state.status)
  | "#" => some (toString state.arguments.length)
  | "$" => some ownProcess
  | "!" | "-" => some ""
  | "@" | "*" =>
    if state.arguments.isEmpty then none else some (" ".intercalate state.arguments)
  | name =>
    match countArgument? name with
    | some n => state.arguments[n - 1]?
    | none => state.lookup? name

/-- The value of a parameter, empty if it has none. -/
def value (state : State) (name : String) : String := (state.value? name).getD ""

/-- The characters at which values are split. -/
def separators (state : State) : List Char :=
  ((state.lookup? "IFS").getD " \t\n").toList

/-- The variables that a program sees. -/
def environment (state : State) : List (String × String) :=
  state.bindings.filter fun v => state.exported.contains v.1

/-- The action of a trap. -/
def trap? (state : State) (signal : Nat) : Option String :=
  (state.traps.find? fun t => t.1 == signal).map Prod.snd

end State

end PostgresAccess.Program.Shell
