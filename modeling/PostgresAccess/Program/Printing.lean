import PostgresAccess.Program.Format
import PostgresAccess.Program.Option

/-!
# Programs that print

The programs `echo`, `printf`, `yes` and `seq` print what their arguments say and read nothing.
-/

namespace PostgresAccess.Program

/-- An argument that sets how `echo` prints. -/
def isEchoOption (s : String) : Bool :=
  match s.toList with
  | '-' :: letters => !letters.isEmpty && letters.all fun c => c == 'n' || c == 'e' || c == 'E'
  | _ => false

/-- Whether the last letter that says so asks for escapes. -/
def echoEscapes (options : List String) : Bool :=
  match (options.flatMap String.toList).reverse.find? fun c => c == 'e' || c == 'E' with
  | some c => c == 'e'
  | none => false

/-- Prints the arguments with spaces between them and a line end. -/
def echo (dialect : Dialect) (arguments : List String) : Run :=
  let (options, words) := match dialect with
    | .standalone => (arguments.takeWhile isEchoOption, arguments.dropWhile isEchoOption)
    | .shell _ =>
      if arguments.head? = some "-n" then (["-n"], arguments.tail) else ([], arguments)
  let escapes := !dialect.isStandalone || echoEscapes options
  let text := byteChars (" ".intercalate words)
  let noLineEnd := options.any fun option => option.toList.contains 'n'
  let output := if escapes then unescaped dialect text.length text else text
  let lineEnd := if noLineEnd || (escapes && endsOutput text) then [] else ['\n']
  .printing (charBytes (output ++ lineEnd))

/-- The complaint of `printf` about an argument that is no number. -/
def numberComplaint (dialect : Dialect) (argument : String) (fault : NumberFault) : String :=
  match dialect, fault with
  | .standalone, .notNumber => "printf: '" ++ argument ++ "': expected a numeric value"
  | .standalone, .incomplete => "printf: '" ++ argument ++ "': value not completely converted"
  | .shell label, .notNumber => label ++ ": printf: " ++ argument ++ ": expected numeric value"
  | .shell label, .incomplete => label ++ ": printf: " ++ argument ++ ": not completely converted"

/-- The complaint of `printf` about a conversion that is none. -/
def conversionComplaint (dialect : Dialect) (text : String) : Run :=
  match dialect with
  | .standalone => .complaining ("printf: %" ++ text ++ ": invalid conversion specification") 1
  | .shell label =>
    if text = "" then .complaining (label ++ ": printf: missing format character") 2
    else .complaining (label ++ ": printf: %" ++ text ++ ": invalid directive") 2

/-- Prints the arguments after the first one as that says. -/
def printf (dialect : Dialect) (arguments : List String) : Run :=
  match (if arguments.head? = some "--" then arguments.tail else arguments), dialect with
  | [], .standalone => usageComplaint "printf" "missing operand"
  | [], .shell label => .complaining (label ++ ": printf: usage: printf format [arg ...]") 2
  | format :: rest, dialect =>
    let result := formatAll dialect (byteChars format) rest.length rest
    let complaints := result.faults.map fun (argument, fault) =>
      Run.complaining (numberComplaint dialect argument fault) 1
    let ending := match result.invalid with
      | none => Run.silent (min complaints.length 1)
      | some text => conversionComplaint dialect (String.ofList text)
    (Run.printing (charBytes result.output)).andThen (complaints.foldr Run.andThen ending)

/-- Prints its arguments on one line over and over. -/
def yes (arguments : List String) : Run :=
  let line := if arguments.isEmpty then "y" else " ".intercalate arguments
  .ofEnding (.flooding (Text.Utf8.encode (line ++ "\n")))

/-- Prints the whole numbers from one to another in steps, each on a line. -/
def seq (arguments : List String) : Run :=
  let numbers (first step last : Int) : Run :=
    if step = 0 then usageComplaint "seq" "invalid Zero increment value: '0'"
    else
      let count := ((last - first) / step + 1).toNat
      let lines := (List.range count).map fun (i : Nat) => toString (first + step * i) ++ "\n"
      .printing (Text.Utf8.encode (String.join lines))
  match arguments.find? fun argument => (integerArgument argument).2.isSome with
  | some bad => usageComplaint "seq" ("invalid floating point argument: '" ++ bad ++ "'")
  | none =>
    match arguments.map fun argument => (integerArgument argument).1 with
    | [] => usageComplaint "seq" "missing operand"
    | [last] => numbers 1 1 last
    | [first, last] => numbers first 1 last
    | first :: step :: last :: _ => numbers first step last

end PostgresAccess.Program
