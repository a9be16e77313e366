import PostgresAccess.Version.Operand

/-!
# Reading versions

A version text is `MAJOR[.MINOR[.PATCH]][-PRERELEASE][+BUILD]` after an optional `v`, with white
space at both ends ignored.  The numbers are runs of decimal digits of any script; the prerelease
and the build are lists of identifiers separated by dots.  A number that is missing is zero.

The text is cut at its first hyphen and at its first plus sign, and each part is split at its dots:
no part of a version text holds the mark that ends it.
-/

namespace PostgresAccess.Version

open Numeral (IntegerFault readInteger)
open Text (isDecimal quoted trim)

/-- Why a value is not the text of a version. -/
inductive Fault where
  /-- The value is no text. -/
  | notText (value : Operand)
  /-- The text has not the form of a version. -/
  | malformed (text : String)
  /-- A number of the text is not read. -/
  | number (fault : IntegerFault)

/-- The words for a fault. -/
def Fault.message : Fault → String
  | .notText value => "invalid version (" ++ value.literal ++ "): expected a string"
  | .malformed text => "invalid version (" ++ quoted text ++ ")"
  | .number fault => fault.message

/-- The parts of a text between the occurrences of a mark; at least one, perhaps empty. -/
def splitAtMark (mark : Char) : List Char → List (List Char)
  | [] => [[]]
  | c :: rest =>
    if c = mark then [] :: splitAtMark mark rest
    else
      match splitAtMark mark rest with
      | [] => [[c]]
      | part :: parts => (c :: part) :: parts

/-- A character of an identifier. -/
def isIdentifierChar (c : Char) : Bool := c.isAlphanum || c == '-'

/-- A run of digits that is a number of a release. -/
def isNumber (part : List Char) : Bool := !part.isEmpty && part.all isDecimal

/-- An identifier of a prerelease or a build. -/
def isIdentifier (part : List Char) : Bool := !part.isEmpty && part.all isIdentifierChar

/-- The parts of a version text. -/
structure Parts where
  /-- The numbers of the release. -/
  numbers : List (List Char)
  prerelease : List (List Char)
  build : List (List Char)
deriving DecidableEq, Repr

/-- The identifiers after a mark, none if the mark is missing. -/
def identifiersAfter (mark : Char) : List Char → List (List Char)
  | [] => []
  | c :: rest => if c = mark then splitAtMark '.' rest else []

/-- Cuts a text at the marks between the parts of a version. -/
def cut (cs : List Char) : Parts :=
  let body := match cs with
    | 'v' :: rest => rest
    | cs => cs
  let beforeBuild := body.takeWhile (· ≠ '+')
  { numbers := splitAtMark '.' (beforeBuild.takeWhile (· ≠ '-'))
    prerelease := identifiersAfter '-' (beforeBuild.dropWhile (· ≠ '-'))
    build := identifiersAfter '+' (body.dropWhile (· ≠ '+')) }

/-- Whether some parts are those of a version: one to three numbers, and identifiers. -/
def Parts.areWellFormed (parts : Parts) : Bool :=
  parts.numbers.length ≤ 3 && parts.numbers.all isNumber && parts.prerelease.all isIdentifier
    && parts.build.all isIdentifier

/-- A number of the release, zero if it is missing. -/
def Parts.number (parts : Parts) (place : Nat) : Except Fault Int :=
  match parts.numbers[place]? with
  | none => .ok 0
  | some digits => (readInteger (String.ofList digits)).mapError .number

/-- The version that a text denotes. -/
def parse (text : String) : Except Fault Version := do
  let parts := cut (trim text.toList)
  if parts.areWellFormed then
    let major ← parts.number 0
    let minor ← parts.number 1
    let patch ← parts.number 2
    return .ofNumbers major minor patch (parts.prerelease.map String.ofList)
      (parts.build.map String.ofList)
  else
    throw (.malformed text)

/-- The version that an operand denotes: only a text denotes one. -/
def ofOperand : Operand → Except Fault Version
  | .value (.text s) => parse s
  | operand => .error (.notText operand)

/-- The version that a value denotes. -/
def ofValue (v : Value) : Except Fault Version := ofOperand (.value v)

end PostgresAccess.Version
