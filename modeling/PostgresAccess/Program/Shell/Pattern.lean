/-!
# Patterns

A pattern of the shell is matched against a whole text: a question mark stands for any character, a
star for any text, and brackets for one of some characters.  A character that was quoted stands for
itself.
-/

namespace PostgresAccess.Program.Shell

/-- A character of a word, with whether it was quoted. -/
abbrev Marked := Char × Bool

/-- Some characters that were all quoted, or not. -/
def markAll (quoted : Bool) (s : String) : List Marked := s.toList.map fun c => (c, quoted)

/-- The characters of a word. -/
def unmarked (cs : List Marked) : String := String.ofList (cs.map Prod.fst)

/-- An item of a pattern. -/
inductive PatternItem where
  | exactly (c : Char)
  | anyChar
  | anyText
  /-- A character that lies in one of some ranges, or in none of them. -/
  | within (ranges : List (Char × Char)) (negated : Bool)
deriving DecidableEq, Repr

/-- The ranges up to the closing bracket; a bracket at the start is a character. -/
def readRanges : Nat → Bool → List Marked → Option (List (Char × Char) × List Marked)
  | 0, _, _ => none
  | measure + 1, atStart, cs =>
    match cs with
    | [] => none
    | (']', false) :: rest =>
      if atStart then
        (readRanges measure false rest).map fun (ranges, after) => ((']', ']') :: ranges, after)
      else some ([], rest)
    | (low, _) :: ('-', false) :: (high, highQuoted) :: rest =>
      if high = ']' ∧ highQuoted = false then
        some ([(low, low), ('-', '-')], rest)
      else
        (readRanges measure false rest).map fun (ranges, after) => ((low, high) :: ranges, after)
    | (c, _) :: rest =>
      (readRanges measure false rest).map fun (ranges, after) => ((c, c) :: ranges, after)

/-- The items of a pattern; the measure bounds its length. -/
def readPattern : Nat → List Marked → List PatternItem
  | 0, _ => []
  | measure + 1, cs =>
    match cs with
    | [] => []
    | ('?', false) :: rest => .anyChar :: readPattern measure rest
    | ('*', false) :: rest => .anyText :: readPattern measure rest
    | ('[', false) :: rest =>
      let (negated, body) := match rest with
        | ('!', false) :: body | ('^', false) :: body => (true, body)
        | body => (false, body)
      match readRanges (body.length + 1) true body with
      | some (ranges, after) => .within ranges negated :: readPattern measure after
      | none => .exactly '[' :: readPattern measure rest
    | (c, _) :: rest => .exactly c :: readPattern measure rest

/-- The items of a pattern. -/
def patternOf (cs : List Marked) : List PatternItem := readPattern cs.length cs

/-- Whether an item stands for a character. -/
def PatternItem.accepts (c : Char) : PatternItem → Bool
  | .exactly d => c == d
  | .anyChar | .anyText => true
  | .within ranges negated => (ranges.any fun r => r.1 ≤ c && c ≤ r.2) != negated

/-- Whether a pattern matches a whole text. -/
def matchesAll : List PatternItem → List Char → Bool
  | [], cs => cs.isEmpty
  | .anyText :: items, cs =>
    matchesAll items cs ||
      match cs with
      | [] => false
      | _ :: rest => matchesAll (.anyText :: items) rest
  | item :: items, cs =>
    match cs with
    | [] => false
    | c :: rest => item.accepts c && matchesAll items rest
termination_by items cs => items.length + cs.length

/-- Whether some characters hold one that is not quoted and has a meaning in patterns. -/
def isPattern (cs : List Marked) : Bool :=
  cs.any fun (c, quoted) => !quoted && (c == '*' || c == '?' || c == '[')

/-- A text without the part at its start or its end that a pattern matches: the shortest part or
the longest one.  The text stays as it is if no part matches. -/
def trimMatch (items : List PatternItem) (atEnd longest : Bool) (text : List Char) : List Char :=
  let lengths := List.range (text.length + 1)
  let lengths := if longest then lengths.reverse else lengths
  let part (n : Nat) : List Char := if atEnd then text.drop (text.length - n) else text.take n
  match lengths.find? fun n => matchesAll items (part n) with
  | none => text
  | some n => if atEnd then text.take (text.length - n) else text.drop n

end PostgresAccess.Program.Shell
