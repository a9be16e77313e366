import PostgresAccess.Program.Shell.Evaluation

/-!
# Starting programs

A command without a slash is looked up among the programs that the system has; one with a slash
names a file.  The files of the working directory cannot be executed.  A program that starts has an
empty input and the variables of the environment.
-/

namespace PostgresAccess.Program

/-- The greatest number of bytes of an argument. -/
def maxArgumentLength : Nat := 131071

/-- The variables that are set. -/
def bindings (env : Environment) : List (String × String) :=
  Variable.all.filterMap fun v => (env.text? v).map fun text => (v.name, text)

/-- The run of a program of the system. -/
def system? (scene : Scene) (env : Environment) (calledAs name : String)
    (arguments : List String) : Option Run :=
  (Shell.systemProgram? Shell.evaluate calledAs name scene (bindings env) arguments).map Prod.fst

/-- The run of a file that a path names. -/
def startFile (scene : Scene) (env : Environment) (call : HelperCall) : Except FileFault Run :=
  match (Shell.nameInDirectory? call.command).bind fun name =>
    system? scene env call.command name call.arguments with
  | some run => .ok run
  | none =>
    match scene.files.walk call.command with
    | .error fault => .error fault
    | .ok _ => .error .permissionDenied

/-- The run of a command that is looked up; an empty name and the names of directories lead to
directories. -/
def startNamed (scene : Scene) (env : Environment) (call : HelperCall) : Except FileFault Run :=
  if call.command = "" ∨ call.command = "." ∨ call.command = ".." then .error .permissionDenied
  else
    match system? scene env call.command call.command call.arguments with
    | some run => .ok run
    | none =>
      if FileTree.maxPartLength < call.command.utf8ByteSize then .error .nameTooLong
      else .error .noSuchFile

/-- The system that has some files and the programs of this library. -/
def system (files : FileTree) (env : Environment) : System := fun call =>
  if (call.command :: call.arguments).any fun s => maxArgumentLength < s.utf8ByteSize then
    .error .argumentsTooLong
  else
    let start := if call.command.toList.contains '/' then startFile else startNamed
    (start ⟨files, "", .empty⟩ env call).map fun run => run.behaviour processNumber

end PostgresAccess.Program
