import PostgresAccess.Version

/-!
# Versions from named parts

A version may be put together from named parts, which are not checked.  The major number has to be
there, the other parts may be missing, and there are no parts of other names.  The identifiers are
the members of a value.
-/

namespace PostgresAccess.Version

/-- Why some named parts make up no version. -/
inductive PartsFault where
  /-- The identifiers are no sequence. -/
  | value (fault : ValueFault)
  /-- A version has no part of this name. -/
  | unexpected (name : String)
  | missingMajor
deriving DecidableEq, Repr

/-- The words for a fault. -/
def PartsFault.message : PartsFault → String
  | .value fault => fault.message
  | .unexpected name =>
    "ServerVersion.__init__() got an unexpected keyword argument '" ++ name ++ "'"
  | .missingMajor => "ServerVersion.__init__() missing 1 required positional argument: 'major'"

/-- The names of the parts. -/
def partNames : List String := ["major", "minor", "patch", "prerelease", "build"]

/-- The identifiers of a part; none if the part is missing. -/
def identifiersPart (parts : Entries) (name : String) : Except PartsFault (List Value) :=
  match parts.get? name with
  | none => .ok []
  | some v => v.members.mapError .value

/-- The version of some named parts. -/
def ofParts (parts : Entries) : Except PartsFault Version := do
  let prerelease ← identifiersPart parts "prerelease"
  let build ← identifiersPart parts "build"
  match parts.find? fun part => !partNames.contains part.1 with
  | some (name, _) => throw (.unexpected name)
  | none =>
    match parts.get? "major" with
    | none => throw .missingMajor
    | some major =>
      return {
        major
        minor := (parts.get? "minor").getD (.int 0)
        patch := (parts.get? "patch").getD (.int 0)
        prerelease
        build }

end PostgresAccess.Version
