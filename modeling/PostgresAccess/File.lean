import PostgresAccess.Text.Quoted

/-!
# Files

`FileFault` lists the reasons for which the system refuses to open a file.  `Path.normalise` writes
a path without what does not change its meaning: repeated slashes, single dots and a slash at the
end; a part of two dots stays, because what it means depends on links.
-/

namespace PostgresAccess

open Text (quoted)

/-- Why a file is not opened. -/
inductive FileFault where
  | noSuchFile
  | argumentsTooLong
  | badFormat
  | permissionDenied
  | notADirectory
  | isADirectory
  | nameTooLong
deriving DecidableEq, Repr

namespace FileFault

/-- The system's number of a fault. -/
def number : FileFault → Nat
  | .noSuchFile => 2
  | .argumentsTooLong => 7
  | .badFormat => 8
  | .permissionDenied => 13
  | .notADirectory => 20
  | .isADirectory => 21
  | .nameTooLong => 36

/-- The fault of a number. -/
def ofNumber? (n : Nat) : Option FileFault :=
  [noSuchFile, argumentsTooLong, badFormat, permissionDenied, notADirectory, isADirectory,
    nameTooLong].find? fun fault => fault.number == n

/-- The system's words for a fault. -/
def words : FileFault → String
  | .noSuchFile => "No such file or directory"
  | .argumentsTooLong => "Argument list too long"
  | .badFormat => "Exec format error"
  | .permissionDenied => "Permission denied"
  | .notADirectory => "Not a directory"
  | .isADirectory => "Is a directory"
  | .nameTooLong => "File name too long"

/-- A fault with its number. -/
def numbered (fault : FileFault) : String :=
  "[Errno " ++ toString fault.number ++ "] " ++ fault.words

/-- A fault at a path. -/
def message (fault : FileFault) (path : String) : String :=
  fault.numbered ++ ": " ++ quoted path

end FileFault

/-- What the system gives for a path: the bytes of a file. -/
abbrev FileReader := String → Except FileFault (List UInt8)

namespace Path

/-- The parts of a path between its slashes. -/
def splitParts : List Char → List (List Char)
  | [] => [[]]
  | c :: rest =>
    if c = '/' then [] :: splitParts rest
    else
      match splitParts rest with
      | [] => [[c]]
      | part :: parts => (c :: part) :: parts

/-- The parts of a path that name something: those that are neither empty nor a single dot. -/
def parts (path : String) : List String :=
  ((splitParts path.toList).filter fun part => part ≠ [] && part ≠ ['.']).map String.ofList

/-- The slashes that an absolute path starts with: one, or two if there are exactly two. -/
def root (path : String) : String :=
  match path.toList with
  | '/' :: '/' :: '/' :: _ => "/"
  | '/' :: '/' :: _ => "//"
  | '/' :: _ => "/"
  | _ => ""

/-- The normal form of a path. -/
def normalise (path : String) : String :=
  let text := root path ++ "/".intercalate (parts path)
  if text = "" then "." else text

end Path

end PostgresAccess
