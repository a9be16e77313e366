import PostgresAccess.Value.Literal
import PostgresAccess.Value.Order

/-!
# Server versions

A server version has a release, which is three numbers, and optionally a prerelease and build
metadata, each a list of identifiers.  `render` writes it in full, `MAJOR.MINOR.PATCH`, then the
prerelease after a hyphen and the build metadata after a plus sign.  Two versions are equal in
precedence when they differ in build metadata only.

`ofNumbers` makes a version of numbers and texts, which is what reading a version gives.  A version
may also be put together from parts that are not checked; then its numbers and its identifiers are
any values.  A number of too many digits cannot be written, and neither can an identifier that is no
text.
-/

namespace PostgresAccess

/-- The version of a server. -/
structure Version where
  major : Value
  minor : Value
  patch : Value
  /-- The identifiers of the prerelease; none for a release. -/
  prerelease : List Value
  /-- The identifiers of the build, which no comparison looks at. -/
  build : List Value

namespace Version

/-- The version of some numbers and some identifiers. -/
def ofNumbers (major minor patch : Int) (prerelease build : List String) : Version where
  major := .int major
  minor := .int minor
  patch := .int patch
  prerelease := prerelease.map .text
  build := build.map .text

/-- The version of a release. -/
def ofRelease (major minor patch : Int) : Version := ofNumbers major minor patch [] []

/-- The numbers of the release. -/
def release (v : Version) : List Value := [v.major, v.minor, v.patch]

/-- A list of identifiers after the mark that introduces it, nothing for an empty list. -/
def renderIdentifiers (mark : String) (identifiers : List Value) : Except ValueFault String :=
  if identifiers.isEmpty then .ok ""
  else (Value.joined "." identifiers).map (mark ++ ·)

/-- Why a version has no text. -/
inductive TextFault where
  /-- A number has too many digits. -/
  | oversized
  /-- An identifier is no text. -/
  | identifier (fault : ValueFault)
deriving DecidableEq, Repr

/-- The text of a version. -/
def render (v : Version) : Except TextFault String :=
  if anyOversized v.release then .error .oversized
  else do
    let prerelease ← (renderIdentifiers "-" v.prerelease).mapError .identifier
    let build ← (renderIdentifiers "+" v.build).mapError .identifier
    return ".".intercalate (v.release.map Value.shown) ++ prerelease ++ build

/-- Equal in precedence: the build metadata may differ. -/
def equals (a b : Version) : Bool :=
  equalValues a.release b.release && equalValues a.prerelease b.prerelease

/-- The literal of a version. -/
def literal (v : Version) : String :=
  "ServerVersion(major=" ++ v.major.literal ++ ", minor=" ++ v.minor.literal ++ ", patch="
    ++ v.patch.literal ++ ", prerelease=" ++ tupleLiteral (literals v.prerelease) ++ ", build="
    ++ tupleLiteral (literals v.build) ++ ")"

/-- Why a version cannot be looked up in a set: one of the values that its precedence depends on
cannot. -/
def lookUpFault? (v : Version) : Option ValueFault :=
  (v.release ++ v.prerelease).findSome? Value.lookUpFault?

end Version

end PostgresAccess
