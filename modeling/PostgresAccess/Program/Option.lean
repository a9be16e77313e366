import PostgresAccess.Program.Run

/-!
# Options

The options of small programs are letters after a hyphen.  They may be put together in one argument
and be mixed with the operands; two hyphens end them.
-/

namespace PostgresAccess.Program

open Text (asciiDigit? ofDigits)

/-- The number that a text writes. -/
def countArgument? (s : String) : Option Nat :=
  if s = "" then none else (s.toList.mapM asciiDigit?).map (ofDigits 10)

/-- Why options are not read. -/
inductive OptionFault where
  | unknown (letter : Char)
  | unknownWord (word : String)
  | missingValue (letter : Char)
deriving DecidableEq, Repr

/-- The words for a fault. -/
def OptionFault.message : OptionFault → String
  | .unknown letter => "invalid option -- '" ++ letter.toString ++ "'"
  | .unknownWord word => "unrecognized option '" ++ word ++ "'"
  | .missingValue letter => "option requires an argument -- '" ++ letter.toString ++ "'"

/-- An option, with its value if it takes one. -/
abbrev Setting := Char × String

/-- The letters of one argument: `flags` stand alone, and a letter of `valued` takes the rest of
the argument or the next argument. -/
def readLetters (flags valued : String) : List Char → List String →
    Except OptionFault (List Setting × List String)
  | [], later => .ok ([], later)
  | letter :: rest, later =>
    if flags.toList.contains letter then
      (readLetters flags valued rest later).map fun (settings, later) =>
        ((letter, "") :: settings, later)
    else if valued.toList.contains letter then
      match rest, later with
      | [], [] => .error (.missingValue letter)
      | [], value :: later => .ok ([(letter, value)], later)
      | rest, later => .ok ([(letter, String.ofList rest)], later)
    else .error (.unknown letter)

/-- The options and the operands of a program, which may be mixed; the measure bounds their
number. -/
def readOptions (flags valued : String) :
    Nat → List String → Except OptionFault (List Setting × List String)
  | 0, operands => .ok ([], operands)
  | _, [] => .ok ([], [])
  | measure + 1, argument :: rest =>
    match argument.toList with
    | ['-', '-'] => .ok ([], rest)
    | '-' :: '-' :: _ => .error (.unknownWord argument)
    | '-' :: letter :: more => do
      let (first, rest) ← readLetters flags valued (letter :: more) rest
      let (settings, operands) ← readOptions flags valued measure rest
      return (first ++ settings, operands)
    | _ => do
      let (settings, operands) ← readOptions flags valued measure rest
      return (settings, argument :: operands)

/-- The complaint of a program, with the advice to ask for help. -/
def usageComplaint (program text : String) : Run :=
  .complaining
    (program ++ ": " ++ text ++ "\nTry '" ++ program ++ " --help' for more information.") 1

/-- Runs a program on its options and operands. -/
def withOptions (program flags valued : String) (arguments : List String)
    (run : List Setting → List String → Run) : Run :=
  match readOptions flags valued arguments.length arguments with
  | .error fault => usageComplaint program fault.message
  | .ok (settings, operands) => run settings operands

end PostgresAccess.Program
