import PostgresAccess.Helper
import PostgresAccess.Numeral.Nearest
import PostgresAccess.Text.Digit

/-!
# Command-line arguments

The arguments are options and, before the mark `--`, abbreviations of long options, clusters of
short options and options with their value after an equals sign.  An argument that looks like an
option but is none, and every argument that no option takes, is left over; left-over arguments are a
fault in the end.  The first fault ends the reading, and so does a request for help, but an
ambiguous abbreviation is found before anything else.
-/

namespace PostgresAccess.CommandLine

open Numeral (Binary64 readReal)
open Text (isDecimal quoted)

/-- What an option asks for. -/
inductive Choice where
  | help
  | config
  | commandTimeout
  | verbose
deriving DecidableEq, Repr

namespace Choice

/-- Every choice. -/
def all : List Choice := [help, config, commandTimeout, verbose]

/-- The options that ask for a choice. -/
def names : Choice → List String
  | .help => ["-h", "--help"]
  | .config => ["--config"]
  | .commandTimeout => ["--command-timeout"]
  | .verbose => ["-v", "--verbose"]

/-- Whether an option of the choice takes a value. -/
def takesValue : Choice → Bool
  | .config | .commandTimeout => true
  | .help | .verbose => false

/-- The name of a choice in messages. -/
def display (choice : Choice) : String := "/".intercalate choice.names

end Choice

/-- The options with what they ask for. -/
def options : List (String × Choice) :=
  Choice.all.flatMap fun choice => choice.names.map fun name => (name, choice)

/-- The choice of an option in full. -/
def choice? (name : String) : Option Choice :=
  (options.find? fun option => option.1 == name).map Prod.snd

/-- Why arguments are refused. -/
inductive Fault where
  /-- The abbreviation stands for more than one option. -/
  | ambiguous (argument : String) (candidates : List String)
  | valueExpected (choice : Choice)
  | notANumber (choice : Choice) (text : String)
  /-- The option takes no value. -/
  | ignoredValue (choice : Choice) (text : String)
  | leftOver (arguments : List String)
deriving DecidableEq, Repr

/-- The words for a fault. -/
def Fault.message : Fault → String
  | .ambiguous argument candidates =>
    "ambiguous option: " ++ argument ++ " could match " ++ ", ".intercalate candidates
  | .valueExpected choice => "argument " ++ choice.display ++ ": expected one argument"
  | .notANumber choice text =>
    "argument " ++ choice.display ++ ": invalid float value: " ++ quoted text
  | .ignoredValue choice text =>
    "argument " ++ choice.display ++ ": ignored explicit argument " ++ quoted text
  | .leftOver arguments => "unrecognized arguments: " ++ " ".intercalate arguments

/-! ## Kinds of arguments -/

/-- What an argument is. -/
inductive Kind where
  /-- A value, or an argument that nothing takes. -/
  | plain
  /-- An option, with the text attached to it. -/
  | option (choice : Choice) (name : String) (attached : Option String)
  /-- It looks like an option and is none. -/
  | unknownOption
deriving DecidableEq, Repr

/-- A text before and after its first equals sign. -/
def splitEquals (cs : List Char) : String × Option String :=
  let name := String.ofList (cs.takeWhile (· ≠ '='))
  match cs.dropWhile (· ≠ '=') with
  | [] => (name, none)
  | _ :: value => (name, some (String.ofList value))

/-- Whether a text is a negative number, which is a value and not an option. -/
def isNegativeNumber (cs : List Char) : Bool :=
  match cs with
  | '-' :: body =>
    let whole := body.takeWhile isDecimal
    let rest := body.dropWhile isDecimal
    let atEnd (cs : List Char) : Bool := cs == [] || cs == ['\n']
    match rest with
    | '.' :: fraction =>
      !(fraction.takeWhile isDecimal).isEmpty && atEnd (fraction.dropWhile isDecimal)
    | rest => !whole.isEmpty && atEnd rest
  | _ => false

/-- The options that an argument may abbreviate, with the text attached to each. -/
def candidates (argument : String) : List (Choice × String × Option String) :=
  match argument.toList with
  | '-' :: '-' :: _ =>
    let (start, attached) := splitEquals argument.toList
    options.filterMap fun (name, choice) =>
      if start.toList.isPrefixOf name.toList then some (choice, name, attached) else none
  | '-' :: c :: rest =>
    options.filterMap fun (name, choice) =>
      if name.toList = ['-', c] then some (choice, name, some (String.ofList rest))
      else if argument.toList.isPrefixOf name.toList then some (choice, name, none)
      else none
  | _ => []

/-- An argument that is no option in full. -/
def kindOfOther (argument : String) : Except Fault Kind :=
  match candidates argument with
  | [(choice, name, attached)] => .ok (.option choice name attached)
  | [] =>
    if isNegativeNumber argument.toList || argument.toList.contains ' ' then .ok .plain
    else .ok .unknownOption
  | several => .error (.ambiguous argument (several.map fun candidate => candidate.2.1))

/-- What an argument before the mark `--` is. -/
def kindOf (argument : String) : Except Fault Kind :=
  match argument.toList with
  | '-' :: _ :: _ =>
    match choice? argument with
    | some choice => .ok (.option choice argument none)
    | none =>
      match splitEquals argument.toList with
      | (name, some value) =>
        match choice? name with
        | some choice => .ok (.option choice name (some value))
        | none => kindOfOther argument
      | (_, none) => kindOfOther argument
  | _ => .ok .plain

/-- The kinds of all arguments; everything from the mark `--` on is plain, and the mark itself is
nothing that an option takes. -/
def kinds : List String → Except Fault (List (String × Kind))
  | [] => .ok []
  | argument :: rest =>
    if argument = "--" then .ok ((argument, .unknownOption) :: rest.map fun a => (a, .plain))
    else do
      let kind ← kindOf argument
      let others ← kinds rest
      return (argument, kind) :: others

/-! ## Reading -/

/-- What the arguments ask for. -/
structure Request where
  /-- The file of the attributes, if one is named. -/
  config : Option String
  /-- The seconds that a helper may take. -/
  commandTimeout : Option Binary64
  verbose : Bool
deriving DecidableEq, Repr

/-- Nothing is asked for. -/
def Request.standard : Request := ⟨none, none, false⟩

/-- What reading arguments leads to. -/
inductive Reading where
  | request (request : Request)
  | help
  | fault (fault : Fault)
deriving DecidableEq, Repr

/-- A request with one more choice; nothing for a request for help. -/
def Request.take (request : Request) (choice : Choice) (value : String) :
    Except Fault (Option Request) :=
  match choice with
  | .help => .ok none
  | .verbose => .ok (some { request with verbose := true })
  | .config => .ok (some { request with config := some value })
  | .commandTimeout =>
    match readReal value with
    | some seconds => .ok (some { request with commandTimeout := some seconds })
    | none => .error (.notANumber choice value)

/-- The choices of a cluster of short options after a first one, which takes no value. -/
def clusterFrom (first : Choice) : List Char → Except Fault (List Choice)
  | [] => .ok [first]
  | c :: rest =>
    match choice? (String.ofList ['-', c]) with
    | some next => (clusterFrom next rest).map (first :: ·)
    | none => .error (.ignoredValue first (String.ofList (c :: rest)))

/-- The choices of an option that takes no value, with the text attached to it. -/
def flags (choice : Choice) (name : String) (attached : Option String) :
    Except Fault (List Choice) :=
  match attached with
  | none => .ok [choice]
  | some text =>
    if name.toList.take 2 = ['-', '-'] ∨ text = "" then .error (.ignoredValue choice text)
    else clusterFrom choice text.toList

/-- A request with some more choices that take no value. -/
def Request.takeFlags (request : Request) : List Choice → Except Fault (Option Request)
  | [] => .ok (some request)
  | choice :: rest => do
    match ← request.take choice "" with
    | none => return none
    | some request => request.takeFlags rest

/-- Reads arguments of known kinds; the arguments left over so far come latest first. -/
def readKinds (request : Request) (left : List String) : List (String × Kind) → Reading
  | [] => if left.isEmpty then .request request else .fault (.leftOver left.reverse)
  | (argument, .plain) :: rest => readKinds request (argument :: left) rest
  | (argument, .unknownOption) :: rest => readKinds request (argument :: left) rest
  | (_, .option choice name attached) :: rest =>
    if choice.takesValue then
      match attached, rest with
      | some value, rest =>
        match request.take choice value with
        | .ok (some request) => readKinds request left rest
        | .ok none => .help
        | .error fault => .fault fault
      | none, (value, .plain) :: rest =>
        match request.take choice value with
        | .ok (some request) => readKinds request left rest
        | .ok none => .help
        | .error fault => .fault fault
      | none, _ => .fault (.valueExpected choice)
    else
      match flags choice name attached >>= request.takeFlags with
      | .ok (some request) => readKinds request left rest
      | .ok none => .help
      | .error fault => .fault fault

/-- Reads arguments. -/
def read (arguments : List String) : Reading :=
  match kinds arguments with
  | .ok kinds => readKinds .standard [] kinds
  | .error fault => .fault fault

/-! ## Texts -/

/-- How the program is called. -/
def usage : String :=
  "usage: pgprovider [-h] [--config CONFIG] [--command-timeout COMMAND_TIMEOUT]\n"
    ++ "                  [-v]\n"

/-- What the program does and what its options mean. -/
def helpText : String :=
  usage ++ "\nAssemble the provider configuration and print the resulting descriptor.\n\noptions:\n"
    ++ "  -h, --help            show this help message and exit\n"
    ++ "  --config CONFIG       Provider config TOML file\n"
    ++ "  --command-timeout COMMAND_TIMEOUT\n"
    ++ "                        Seconds to wait for password_command before giving up\n"
    ++ "  -v, --verbose         Enable debug logging\n"

/-- A fault with the way to call the program. -/
def Fault.report (fault : Fault) : String :=
  usage ++ "pgprovider: error: " ++ fault.message ++ "\n"

end PostgresAccess.CommandLine
