import PostgresAccess.Program.Shell.Progress
import PostgresAccess.Program.Utility

/-!
# Commands of the shell's own

Commands that change the state of the shell or the flow of control, by their names.
-/

namespace PostgresAccess.Program.Shell

/-! ## Leaving -/

/-- The exit code that an argument names, or that of the last command. -/
def exitCode (state : State) (who : String) (arguments : List String) :
    Except String Nat :=
  match arguments with
  | [] => .ok state.status
  | argument :: _ =>
    match countArgument? argument with
    | some code => .ok (code % 256)
    | none => .error (who ++ ": Illegal number: " ++ argument)

/-- Ends the shell. -/
def State.exit (state : State) (arguments : List String) : Progress :=
  match exitCode state "exit" arguments with
  | .ok code => finish state (.exited code)
  | .error text => state.giveUp text

/-- Leaves a function. -/
def State.return_ (state : State) (arguments : List String) : Progress :=
  match exitCode state "return" arguments with
  | .ok code => ⟨{ state with status := code }, .silent code, .returned⟩
  | .error text => state.giveUp text

/-- Leaves loops or goes on with one of them. -/
def State.leaveLoops (state : State) (who : String) (flow : Nat → Flow)
    (arguments : List String) : Progress :=
  match countArgument? (arguments.headD "1") with
  | none | some 0 => state.giveUp (who ++ ": Illegal number: " ++ arguments.headD "1")
  | some n =>
    if state.loops = 0 then .quiet state 0
    else ⟨{ state with status := 0 }, .silent 0, flow (min n state.loops)⟩

/-! ## Signals -/

/-- What a shell does when a signal comes. -/
def State.receive (evaluate : Evaluator) (state : State) (signal : Nat) : Progress :=
  if isPassedOver signal then .quiet state 0
  else if stops signal then finish state .endless
  else
    match if signal = 9 then none else state.trap? signal with
    | none => finish state (.signalled signal)
    | some action =>
      let progress := runText evaluate action state
      { progress with state := { progress.state with status := 0 } }

/-- Sends a signal. -/
def State.kill (evaluate : Evaluator) (state : State) (arguments : List String) : Progress :=
  let refuse (text : String) (status : Nat) : Progress :=
    proceed state (state.complaint ("kill: " ++ text) status)
  match arguments with
  | ["-l", number] =>
    match (countArgument? number).bind fun n =>
      signals.find? fun entry => entry.2 == (if 128 < n then n - 128 else n) with
    | some (name, _) => proceed state (.printing (Text.Utf8.encode (name ++ "\n")))
    | none => refuse ("invalid signal number or name: " ++ number) 2
  | arguments =>
    match killArguments arguments with
    | .error fault => refuse fault.message 2
    | .ok (_, []) => refuse KillFault.noArguments.message 2
    | .ok (signal, receivers) =>
      match receivers.find? fun receiver => (integerArgument receiver).2.isSome with
      | some bad => refuse (KillFault.badNumber bad).message 2
      | none =>
        if receivers.contains ownProcess || receivers.contains "0" then
          state.receive evaluate signal
        else refuse "No such process\n" 1

/-- Sets what is done when signals come. -/
def State.setTraps (state : State) (arguments : List String) : Progress :=
  let (action, names) := match arguments with
    | [] => (none, [])
    | [name] => (none, [name])
    | "-" :: names => (none, names)
    | action :: names => (some action, names)
  match names.find? fun name => (signal? name).isNone with
  | some bad => proceed state (state.complaint ("trap: " ++ bad ++ ": bad trap") 1)
  | none =>
    let numbers := names.filterMap signal?
    let others := state.traps.filter fun t => !numbers.contains t.1
    let added := match action with
      | none => []
      | some action => numbers.map fun n => (n, action)
    .quiet { state with traps := added ++ others } 0

/-! ## The state -/

/-- Takes the first arguments off. -/
def State.shift (state : State) (arguments : List String) : Progress :=
  match countArgument? (arguments.headD "1") with
  | none => state.giveUp ("shift: Illegal number: " ++ arguments.headD "1")
  | some n =>
    if state.arguments.length < n then state.giveUp "shift: can't shift that many"
    else .quiet { state with arguments := state.arguments.drop n } 0

/-- The switches of the shell that have an effect or none here, by their letters and names. -/
def switches : List (Char × String) :=
  [('e', "errexit"), ('u', "nounset"), ('f', "noglob"), ('a', "allexport"), ('b', "notify"),
    ('m', "monitor"), ('C', "noclobber")]

/-- Sets a switch of the shell by its letter; the letter if there is no such switch. -/
def State.setSwitch (on : Bool) (state : State) (letter : Char) : Except String State :=
  if letter = 'e' then .ok { state with endsAtFailure := on }
  else if letter = 'u' then .ok { state with refusesUnset := on }
  else if switches.any fun entry => entry.1 == letter then .ok state
  else .error letter.toString

/-- Sets switches and arguments; the measure bounds the number of the arguments.  A fault is the
switch that there is none of. -/
def State.setAll : Nat → State → List String → Except String State
  | 0, state, _ => .ok state
  | _, state, [] => .ok state
  | measure + 1, state, argument :: rest =>
    match argument.toList with
    | ['-', '-'] => .ok { state with arguments := rest }
    | [sign, 'o'] =>
      match rest with
      | [] => .ok state
      | name :: rest =>
        match switches.find? fun entry => entry.2 == name with
        | none => .error ("o " ++ name)
        | some (letter, _) => do setAll measure (← state.setSwitch (sign == '-') letter) rest
    | '-' :: letter :: letters => do
      setAll measure (← (letter :: letters).foldlM (State.setSwitch true) state) rest
    | '+' :: letter :: letters => do
      setAll measure (← (letter :: letters).foldlM (State.setSwitch false) state) rest
    | _ => .ok { state with arguments := argument :: rest }

/-- Goes to a directory. -/
def State.changeDirectory (state : State) (arguments : List String) : Progress :=
  let path := (arguments.filter (· ≠ "--")).headD "/"
  let whole := state.scene.path path
  match state.files.walk whole with
  | .ok (.directory _) => .quiet { state with directory := whole } 0
  | .ok (.outside _) => .quiet { state with directory := whole } 0
  | _ => proceed state (state.complaint ("cd: can't cd to " ++ path) 2)

/-- The name and the value of an argument that sets a variable. -/
def settingOf (argument : String) : String × Option String :=
  let cs := argument.toList
  match cs.dropWhile (· ≠ '=') with
  | _ :: value => (String.ofList (cs.takeWhile (· ≠ '=')), some (String.ofList value))
  | [] => (argument, none)

/-- Sets variables that programs are to see. -/
def State.exportAll (state : State) (arguments : List String) : State :=
  arguments.foldl (fun state argument =>
    let (name, value) := settingOf argument
    let state := match value with
      | some value => state.setVariable name (some value)
      | none => state
    { state with exported := name :: state.exported }) state

/-- Sets variables that are set back at the end of the function. -/
def State.localise (state : State) (arguments : List String) : State :=
  arguments.foldl (fun state argument =>
    let (name, value) := settingOf argument
    let state := { state with saved := (name, state.lookup? name) :: state.saved }
    match value with
    | some value => state.setVariable name (some value)
    | none => state) state

/-- Forgets variables or functions. -/
def State.unset (state : State) (arguments : List String) : State :=
  match arguments with
  | "-f" :: names =>
    { state with functions := state.functions.filter fun f => !names.contains f.1 }
  | "-v" :: names | names => names.foldl (fun state name => state.setVariable name none) state

/-! ## Reading -/

/-- The characters of a line without the backslashes that protect others, each with whether it was
protected; a protected line end is dropped.  Also whether the line had an end, and what follows.
The measure bounds the length of the line. -/
def readProtected (raw : Bool) : Nat → List UInt8 → List (UInt8 × Bool) × Bool × List UInt8
  | 0, bytes => ([], false, bytes)
  | _, [] => ([], false, [])
  | measure + 1, b :: rest =>
    if b = 10 then ([], true, rest)
    else if b = 92 && !raw then
      match rest with
      | [] => ([], false, [])
      | c :: rest =>
        let (line, whole, after) := readProtected raw measure rest
        (if c = 10 then line else (c, true) :: line, whole, after)
    else
      let (line, whole, after) := readProtected raw measure rest
      ((b, false) :: line, whole, after)

/-- A character between the words of a line. -/
def isLineGap (b : UInt8 × Bool) : Bool := !b.2 && (b.1 = 32 || b.1 = 9)

/-- The words of a line for some variables, of which the last one takes the rest. -/
def assignWords : List String → List (UInt8 × Bool) → List (String × String)
  | [], _ => []
  | name :: names, line =>
    let text (part : List (UInt8 × Bool)) : String :=
      Text.Utf8.decodeLossy ((part.map Prod.fst).filter (· ≠ 0))
    let line := line.dropWhile isLineGap
    if names.isEmpty then [(name, text (line.reverse.dropWhile isLineGap).reverse)]
    else
      (name, text (line.takeWhile (!isLineGap ·)))
        :: assignWords names (line.dropWhile (!isLineGap ·))

/-- Reads a line of the input into variables; it fails if the line has no end. -/
def State.readLine (state : State) (arguments : List String) : Progress :=
  let raw := arguments.head? = some "-r"
  let names := if raw then arguments.tail else arguments
  let bytes := if state.input.isEndless then state.input.take 65536 else state.input.bytes
  let (line, whole, after) := readProtected raw (bytes.length + 1) bytes
  let values := assignWords names line
  let state := values.foldl (fun state v => state.setVariable v.1 (some v.2)) state
  .quiet { state with input := { state.input with bytes := after } } (if whole then 0 else 1)

/-! ## All of them -/

/-- The command of a name, if the shell has one of its own that changes it. -/
def ownCommand? (evaluate : Evaluator) (state : State) (name : String) (arguments : List String) :
    Option Progress :=
  match name with
  | ":" | "umask" | "times" | "hash" | "alias" | "ulimit" | "jobs" => some (.quiet state 0)
  | "exit" => some (state.exit arguments)
  | "return" => some (state.return_ arguments)
  | "break" => some (state.leaveLoops "break" .broken arguments)
  | "continue" => some (state.leaveLoops "continue" .continued arguments)
  | "kill" => some (state.kill evaluate arguments)
  | "trap" => some (state.setTraps arguments)
  | "shift" => some (state.shift arguments)
  | "set" =>
    match State.setAll arguments.length state arguments with
    | .ok state => some (.quiet state 0)
    | .error switch => some (state.giveUp ("set: Illegal option -" ++ switch))
  | "cd" => some (state.changeDirectory arguments)
  | "export" | "readonly" => some (.quiet (state.exportAll arguments) 0)
  | "local" => some (.quiet (state.localise arguments) 0)
  | "unset" => some (.quiet (state.unset arguments) 0)
  | "read" => some (state.readLine arguments)
  | "eval" => some (runText evaluate (" ".intercalate arguments) state)
  | "." =>
    match arguments with
    | [] => some (.quiet state 0)
    | path :: _ =>
      match state.files.read (state.scene.path path) with
      | .ok bytes =>
        let progress := runText evaluate (Text.Utf8.decodeLossy bytes) state
        some (if progress.flow = .returned then { progress with flow := .next } else progress)
      | .error _ => some (state.giveUp (".: cannot open " ++ path ++ ": No such file"))
  | "wait" =>
    match state.jobs with
    | none => some (finish state .endless)
    | some time => some (proceed state (.ofWrites [] (time - state.clock) (.exited 0)))
  | _ => none

end PostgresAccess.Program.Shell
