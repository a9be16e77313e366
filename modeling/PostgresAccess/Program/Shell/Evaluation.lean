import PostgresAccess.Program.Shell.Builtin

/-!
# Running shell scripts

A simple command is a function, one of the shell's own commands or a program; the other commands say
which ones run and how often.  The evaluation is bounded: a script that is nested too deeply counts
as one that does not end, and so does a loop with too many rounds.
-/

namespace PostgresAccess.Program.Shell

/-! ## Programs -/

/-- How deep commands may be nested. -/
def maxNesting : Nat := 1000

/-- How many rounds a loop may have. -/
def maxRounds : Nat := 20000

/-- The state of a shell that has just started. -/
def State.initial (name : String) (arguments : List String) (bindings : List (String × String))
    (scene : Scene) : State where
  name
  line := 1
  arguments
  bindings
  exported := bindings.map Prod.fst
  saved := []
  functions := []
  loops := 0
  status := 0
  clock := 0
  jobs := some 0
  files := scene.files
  directory := scene.directory
  input := scene.input
  standing := []
  endsAtFailure := false
  refusesUnset := false
  traps := []

/-- What a shell does that is called with some arguments: the run of its script, and the files
after it. -/
def shellProgram (evaluate : Evaluator) (calledAs : String) (scene : Scene)
    (bindings : List (String × String)) (arguments : List String) : Run × FileTree :=
  let start (name : String) (arguments : List String) (script : String) : Run × FileTree :=
    let state := State.initial name arguments bindings scene
    let progress := (runText evaluate script state).close evaluate
    (progress.run, progress.state.files)
  let refuse (text : String) : Run × FileTree :=
    (.complaining (calledAs ++ ": 0: " ++ text) 2, scene.files)
  match arguments with
  | [] => start calledAs [] (Text.Utf8.decodeLossy scene.input.bytes)
  | ["-c"] => refuse "-c requires an argument"
  | ["-c", script] => start calledAs [] script
  | "-c" :: script :: zeroth :: rest => start zeroth rest script
  | path :: rest =>
    match scene.files.read (scene.path path) with
    | .error _ => refuse ("cannot open " ++ path ++ ": No such file")
    | .ok bytes => start path rest (Text.Utf8.decodeLossy bytes)

/-- The directories of the system's programs. -/
def directories : List String := ["/bin/", "/usr/bin/"]

/-- The name of the program of the system that a path leads to. -/
def nameInDirectory? (path : String) : Option String :=
  directories.findSome? fun directory =>
    if directory.toList.isPrefixOf path.toList then
      some (String.ofList (path.toList.drop directory.length))
    else none

/-- The names of the shell among the programs. -/
def isShell (name : String) : Bool := name == "sh" || name == "dash"

/-- The run of a program of the system by its name, and the files after it. -/
def systemProgram? (evaluate : Evaluator) (calledAs name : String) (scene : Scene)
    (bindings : List (String × String)) (arguments : List String) : Option (Run × FileTree) :=
  if isShell name then some (shellProgram evaluate calledAs scene bindings arguments)
  else (small? .standalone scene name arguments).map fun run => (run, scene.files)

/-- The run of a file that a path names: no file of the tree can be executed. -/
def State.runFile (state : State) (path : String) : Run :=
  match state.files.walk (state.scene.path path) with
  | .ok _ => state.complaint (path ++ ": Permission denied") 126
  | .error .noSuchFile | .error .notADirectory => state.complaint (path ++ ": not found") 127
  | .error fault => state.complaint (path ++ ": " ++ fault.words) 126

/-- Whether a program reads its input to the end. -/
def readsInput (name : String) (arguments : List String) : Bool :=
  if name = "tr" then true
  else if ["cat", "head", "tail", "wc"].contains name then
    match readOptions "clwu" "nc" arguments.length arguments with
    | .ok (_, operands) => operands.isEmpty || operands.contains "-"
    | .error _ => false
  else isShell name && arguments.isEmpty

/-- The progress of a program. -/
def State.runProgram (evaluate : Evaluator) (state : State) (name : String)
    (arguments : List String) : Progress :=
  let scene := state.scene
  let state := if readsInput name arguments then { state with input := .empty } else state
  let builtin := if builtinNames.contains name then
      small? (.shell state.label) scene name arguments
    else none
  match builtin with
  | some run => proceed state run
  | none =>
    let short := (nameInDirectory? name).getD name
    match systemProgram? evaluate name short scene state.environment arguments with
    | some (run, files) => proceed { state with files } run
    | none =>
      if name.toList.contains '/' then proceed state (state.runFile name)
      else if name = "" then proceed state (state.complaint ": Permission denied" 127)
      else proceed state (state.complaint (name ++ ": not found") 127)

/-! ## Simple commands -/

/-- Splits off the parts of a word up to the sign that sets a variable. -/
def splitSetting : Word → Option (List Char × Word)
  | [] => none
  | part :: rest =>
    match part with
    | .text s false =>
      if s = "=" then some ([], rest)
      else (splitSetting rest).map fun (name, value) => (s.toList ++ name, value)
    | _ => none

/-- The variable that a word sets, and the word of its value. -/
def settingWord? (w : Word) : Option (String × Word) :=
  match splitSetting w with
  | none => none
  | some (cs, value) =>
    match readName cs with
    | some (name, []) => some (name, value)
    | _ => none

/-- The words at the start of a command that set variables, and the others. -/
def splitSettings : List Word → List (String × Word) × List Word
  | [] => ([], [])
  | w :: rest =>
    match settingWord? w with
    | none => ([], w :: rest)
    | some setting =>
      let (settings, words) := splitSettings rest
      (setting :: settings, words)

/-- The progress of a function. -/
def State.callFunction (evaluate : Evaluator) (state : State) (tested : Bool) (body : Command)
    (arguments : List String) : Progress :=
  let progress := evaluate tested { state with arguments, saved := [] } body
  let after := progress.state
  let restored := after.saved.foldl (fun s (name, value) => s.setVariable name value) after
  { progress with
    state := { restored with arguments := state.arguments, saved := state.saved }
    flow := if progress.flow = .returned then .next else progress.flow }

/-- Redirections that hold for every command from now on: what is written comes after what the
file holds. -/
def standingOf (redirections : List Redirection) : List Redirection :=
  redirections.map fun
    | .toFile number _ target => .toFile number true target
    | r => r

/-- The progress of a command after its words were expanded. -/
def State.call (evaluate : Evaluator) (state : State) (tested : Bool)
    (redirections : List Redirection) (words : List String) : Progress :=
  match words with
  | [] => .quiet state state.status
  | ["exec"] =>
    .quiet { state with standing := state.standing ++ standingOf redirections } 0
  | "exec" :: name :: arguments =>
    let short := (nameInDirectory? name).getD name
    match systemProgram? evaluate name short state.scene state.environment arguments with
    | some (run, files) => ⟨{ state with files, traps := [] }, run, .ended⟩
    | none => ⟨state, state.complaint ("exec: " ++ name ++ ": not found") 127, .ended⟩
  | "command" :: name :: arguments =>
    match ownCommand? evaluate state name arguments with
    | some progress => progress
    | none => state.runProgram evaluate name arguments
  | name :: arguments =>
    match state.functions.find? fun f => f.1 == name with
    | some (_, body) => state.callFunction evaluate tested body arguments
    | none =>
      match ownCommand? evaluate state name arguments with
      | some progress => progress
      | none => state.runProgram evaluate name arguments

/-- The state with variables set for one command. -/
def State.withSettings (state : State) (settings : List (String × String)) : State :=
  { settings.foldl (fun s v => s.setVariable v.1 (some v.2)) state with
    exported := settings.map Prod.fst ++ state.exported }

/-- The progress of a simple command. -/
def State.runSimple (evaluate : Evaluator) (state : State) (tested : Bool) (line : Nat)
    (words : List Word) (redirections : List Redirection) : Progress :=
  let capture := capture evaluate
  let (settings, words) := splitSettings words
  let (e, values) := Expansion.allTexts capture (.start { state with line }) words
  let (e, settings) := settings.foldl (fun (e, done) (name, w) =>
    let (e, cs) := Expansion.text capture e w
    let value := unmarked cs
    let state := if words.isEmpty then e.state.setVariable name (some value) else e.state
    ({ e with state }, done ++ [(name, value)])) (e, ([] : List (String × String)))
  let status := if words.isEmpty then e.status.getD 0 else state.status
  let e := { e with state := { e.state with status } }
  withRedirections evaluate e (state.standing ++ redirections) fun state =>
    if values.isEmpty ∨ settings.isEmpty then state.call evaluate tested redirections values
    else
      let progress := (state.withSettings settings).call evaluate tested redirections values
      let after := settings.foldl (fun s v => s.setVariable v.1 (state.lookup? v.1)) progress.state
      { progress with state := { after with exported := state.exported } }

/-! ## Commands -/

/-- Ends the shell after a failure that nothing tests, if it is to end then. -/
def Progress.guarded (progress : Progress) (tested : Bool) : Progress :=
  if progress.flow = .next && progress.state.endsAtFailure && !tested
      && progress.state.status != 0 then
    { progress with
      run := { progress.run with ending := .exited progress.state.status }
      flow := .ended }
  else progress

/-- The flow after a round of a loop: whether another round follows, and the flow otherwise. -/
def afterRound : Flow → Bool × Flow
  | .next => (true, .next)
  | .broken 0 | .broken 1 => (false, .next)
  | .broken (n + 2) => (false, .broken (n + 1))
  | .continued 0 | .continued 1 => (true, .next)
  | .continued (n + 2) => (false, .continued (n + 1))
  | flow => (false, flow)

/-- The rounds of a loop, as long as the condition has a given result. -/
def rounds (evaluate : Evaluator) (tested result : Bool) (condition body : Command) :
    Nat → Nat → Progress → Progress
  | 0, _, progress => ⟨progress.state, { progress.run with ending := .endless }, .ended⟩
  | measure + 1, status, progress =>
    let checked := progress.andThen fun state => evaluate true state condition
    match checked.flow with
    | .next =>
      if (checked.state.status == 0) == result then
        let round := checked.andThen fun state => evaluate tested state body
        let (again, flow) := afterRound round.flow
        if again then
          rounds evaluate tested result condition body measure round.state.status
            { round with flow }
        else { round with flow }
      else { checked with state := { checked.state with status } }
    | flow => { checked with flow := (afterRound flow).2 }

/-- The rounds of a loop over values. -/
def eachRound (evaluate : Evaluator) (tested : Bool) (name : String) (body : Command) :
    List String → Progress → Progress
  | [], progress => progress
  | value :: rest, progress =>
    let round := progress.andThen fun state =>
      evaluate tested (state.setVariable name (some value)) body
    let (again, flow) := afterRound round.flow
    if again then eachRound evaluate tested name body rest { round with flow }
    else { round with flow }

/-- A loop, which runs inside one loop more. -/
def State.inLoop (state : State) (loop : State → Progress) : Progress :=
  let progress := loop { state with loops := state.loops + 1 }
  { progress with state := { progress.state with loops := state.loops } }

/-- The redirections of a command as a whole. -/
def Command.redirections : Command → List Redirection
  | .simple _ _ redirections | .group _ redirections | .subshell _ redirections => redirections
  | _ => []

/-- Whether redirections leave neither stream as it is. -/
def cutsOff (redirections : List Redirection) : Bool :=
  (redirections.foldl (fun (w : Wiring) r =>
    match r with
    | .toFile number _ _ => w.set number .nowhere
    | .toStream number source => w.set number (if source = 2 then w.errors else w.output)
    | .fromFile _ | .fromText _ => w) Wiring.straight).isCutOff

/-- What a command does that runs while the shell goes on. -/
def State.runBackground (evaluate : Evaluator) (state : State) (command : Command) : Progress :=
  let forked := { state.fork with input := .empty }
  let job := (evaluate false forked command).close evaluate
  let ended := if job.run.ends then job.run.held.max (some job.run.duration) else none
  let jobs := state.jobs.max (ended.map (· + state.clock))
  ⟨{ state with jobs, status := 0, files := job.state.files },
    ⟨job.run.writes, 0, .exited 0, if cutsOff command.redirections then some 0 else ended⟩,
    .next⟩

/-- What a command does; the measure bounds how deep commands are nested. -/
def evaluateAt : Nat → Evaluator
  | 0, _, state, _ => finish state .endless
  | measure + 1, tested, state, command =>
    let evaluate := evaluateAt measure
    let expand (w : Word) (state : State) : Expansion × List Marked :=
      Expansion.text (capture evaluate) (.start state) w
    match command with
    | .nothing => .quiet state 0
    | .simple line words redirections =>
      (state.runSimple evaluate tested line words redirections).guarded tested
    | .pipe first second =>
      let writer := evaluate true state.fork first
      (joinPipe evaluate state writer fun state => evaluate true state second).guarded tested
    | .negated command =>
      (evaluate true state command).andThen fun state =>
        .quiet state (if state.status = 0 then 1 else 0)
    | .both first second =>
      (evaluate true state first).andThen fun state =>
        if state.status = 0 then evaluate tested state second else .quiet state state.status
    | .either first second =>
      (evaluate true state first).andThen fun state =>
        if state.status = 0 then .quiet state 0 else evaluate tested state second
    | .sequence first second =>
      (evaluate tested state first).andThen fun state => evaluate tested state second
    | .background command => state.runBackground evaluate command
    | .group command redirections =>
      withRedirections evaluate (.start state) redirections fun state =>
        evaluate tested state command
    | .subshell command redirections =>
      (withRedirections evaluate (.start state) redirections fun state =>
        (evaluate tested state.fork command).leave evaluate state).guarded tested
    | .conditional condition positive negative =>
      (evaluate true state condition).andThen fun state =>
        evaluate tested state (if state.status = 0 then positive else negative)
    | .loop result condition body =>
      state.inLoop fun state =>
        rounds evaluate tested result condition body maxRounds 0 (.quiet state 0)
    | .each name words body =>
      let (e, values) := match words with
        | none => (Expansion.start state, state.arguments)
        | some words => Expansion.allTexts (capture evaluate) (.start state) words
      withRedirections evaluate e [] fun state =>
        state.inLoop fun state =>
          eachRound evaluate tested name body values (.quiet state 0)
    | .choice subject patterns body next =>
      let (e, text) := expand subject state
      withRedirections evaluate e [] fun state =>
        let isChosen := patterns.any fun pattern =>
          matchesAll (patternOf (expand pattern state).2) (text.map Prod.fst)
        evaluate tested state (if isChosen then body else next)
    | .define name body =>
      .quiet { state with functions := (name, body) :: state.functions } 0

/-- What a command does. -/
def evaluate : Evaluator := evaluateAt maxNesting

end PostgresAccess.Program.Shell
