import PostgresAccess.Numeral.Integer
import PostgresAccess.Version

/-!
# The order of versions

Versions are ordered by their release numbers; a prerelease comes before its release; and of two
prereleases of one release the first pair of different identifiers decides.  Numeric identifiers
are compared as numbers and come before the others, which are compared as texts, and a list comes
after its proper beginnings.  Two different numeric identifiers of equal value are out of order both
ways.

Comparing can fail: a numeric identifier may be too long to be read, and the parts of versions that
were not checked may have no order.
-/

namespace PostgresAccess.Version

open Numeral (IntegerFault readInteger)
open Text (isDigitLike)

/-- Why a comparison has no answer. -/
inductive ComparisonFault where
  /-- An identifier is not read as a number. -/
  | number (fault : IntegerFault)
  /-- The values that are compared do not support it. -/
  | value (fault : ValueFault)
deriving DecidableEq, Repr

/-- The words for a fault. -/
def ComparisonFault.message : ComparisonFault → String
  | .number fault => fault.message
  | .value fault => fault.message

/-- An identifier that is compared as a number. -/
def isNumeric (identifier : String) : Bool :=
  !identifier.isEmpty && identifier.toList.all isDigitLike

/-- Whether one identifier comes before another, different one. -/
def identifierBefore (a b : String) : Except IntegerFault Bool :=
  if isNumeric a then
    if isNumeric b then do
      let m ← readInteger a
      let n ← readInteger b
      return decide (m < n)
    else .ok true
  else if isNumeric b then .ok false
  else .ok (decide (a < b))

/-- The text of an identifier. -/
def identifierText (identifier : Value) : Except ComparisonFault String :=
  match identifier with
  | .text s => .ok s
  | v => .error (.value (.noPart v.kindName "isdigit"))

/-- Whether one list of identifiers comes before another: at the first difference. -/
def prereleaseBefore : List Value → List Value → Except ComparisonFault Bool
  | _, [] => .ok false
  | [], _ :: _ => .ok true
  | a :: as, b :: bs =>
    if a.equals b then prereleaseBefore as bs
    else do
      let s ← identifierText a
      let t ← identifierText b
      (identifierBefore s t).mapError .number

/-- Whether the release of one version comes before that of another. -/
def releaseBefore (a b : Version) : Except ComparisonFault Bool :=
  (relatedValues .before a.release b.release).mapError .value

/-- Two versions of one release. -/
def sameRelease (a b : Version) : Bool := equalValues a.release b.release

/-- Whether one version comes before another. -/
def before (a b : Version) : Except ComparisonFault Bool :=
  if !a.sameRelease b then a.releaseBefore b
  else if a.prerelease.isEmpty || b.prerelease.isEmpty then
    .ok (!a.prerelease.isEmpty && b.prerelease.isEmpty)
  else prereleaseBefore a.prerelease b.prerelease

/-- Whether a relation holds between two versions.  Each relation is decided by whether the first
version comes before the second and by whether they are equal in precedence, so that two versions
may be after each other. -/
def related (relation : Relation) (a b : Version) : Except ComparisonFault Bool := do
  let isBefore ← a.before b
  return match relation with
    | .before => isBefore
    | .atMost => isBefore || a.equals b
    | .after => !isBefore && !a.equals b
    | .atLeast => !isBefore

end PostgresAccess.Version
