import PostgresAccess.File
import PostgresAccess.Helper
import PostgresAccess.Settings.Rule
import PostgresAccess.Text.Utf8
import PostgresAccess.Toml.Fault
import PostgresAccess.Version.Order
import PostgresAccess.Version.Parts
import PostgresAccess.Words

/-!
# Failures

Why an operation of the library gives no result.  A failure keeps its cause; `Failure.message` gives
the words and `Failure.kind` the kind.  The kinds that `FailureKind.isExpected` holds of are those
that bad attributes, a bad helper or a bad server lead to: the command line reports them, and only
them, as an error of its input.
-/

namespace PostgresAccess

open Numeral (IntegerFault)
open Text (quoted)

/-- The kinds of failures. -/
inductive FailureKind where
  /-- The general kind of all failures that are expected. -/
  | provider
  /-- Attributes do not make a connection. -/
  | configuration
  /-- The expected version is none. -/
  | invalidVersion
  /-- An attribute is missing that the rules guarantee. -/
  | invariant
  /-- A helper gave no secret. -/
  | helper
  /-- No connection was opened. -/
  | connection
  /-- The server is older than expected. -/
  | versionMismatch
  | value
  | type
  /-- Something has no part of a name. -/
  | part
  | fileNotFound
  | undecodable
  | timeout
  | system
  | runtime
  /-- A part of something that does not change was to be set. -/
  | frozen
  /-- A part of settings that do not change was to be set. -/
  | validation
  | cancelled
  /-- Nothing has the name. -/
  | lookup
  /-- A number is too large for its use. -/
  | overflow
deriving DecidableEq, Repr

namespace FailureKind

/-- A failure of attributes that do not make a connection. -/
def isConfiguration : FailureKind → Bool
  | .configuration | .invalidVersion => true
  | _ => false

/-- A failure that is reported as an error of the input. -/
def isExpected : FailureKind → Bool
  | .provider | .configuration | .invalidVersion | .invariant | .helper | .connection
  | .versionMismatch => true
  | _ => false

end FailureKind

/-- Why attributes do not make a connection. -/
inductive ConfigurationFault where
  /-- The file of the attributes is not opened. -/
  | unopened (path : String) (fault : FileFault)
  /-- The file is no document. -/
  | malformed (path : String) (complaint : Toml.Complaint)
  /-- The section of the attributes is no table. -/
  | sectionNotTable (path : String)
  /-- Attributes break rules. -/
  | rejected (source : String) (faults : List Settings.Fault)
  /-- The text of a variable does not convert. -/
  | unconverted (source : String) (fault : Settings.ConversionFault)
  /-- The command line of the helper is not split. -/
  | unsplit (fault : Words.Fault)
  /-- The command line of the helper has no words. -/
  | wordless

/-- The words for a fault of the configuration. -/
def ConfigurationFault.message : ConfigurationFault → String
  | .unopened path fault =>
    "Failed to read provider config '" ++ path ++ "': " ++ fault.message path
  | .malformed path complaint =>
    "Failed to read provider config '" ++ path ++ "': " ++ complaint.message
  | .sectionNotTable path => "Section [provider] in '" ++ path ++ "' must be a table"
  | .rejected source faults =>
    "Invalid provider config in " ++ source ++ ": "
      ++ "; ".intercalate (faults.map Settings.Fault.describe)
  | .unconverted source fault => "Invalid provider config in " ++ source ++ ": " ++ fault.message
  | .unsplit fault => "Cannot parse 'password_command': " ++ fault.message
  | .wordless =>
    "Cannot parse 'password_command': not enough values to unpack (expected at least 1, got 0)"

/-- Why an operation gives no result. -/
inductive Failure where
  | configuration (fault : ConfigurationFault)
  /-- The value of an attribute is no version. -/
  | invalidVersion (name : String) (value : Version.Operand) (reason : String)
  | missingAttribute (name : String)
  | helper (failure : HelperFailure)
  /-- No connection was opened, for a reason given by its words. -/
  | connection (host port database : Value) (reason : String)
  /-- The server is older than expected; the versions are given by their texts. -/
  | serverTooOld (host port : Value) (actual expected : String)
  /-- A number is not read or not written. -/
  | number (fault : IntegerFault)
  /-- A value does not support its use. -/
  | value (fault : ValueFault)
  | version (fault : Version.Fault)
  | comparison (fault : Version.ComparisonFault)
  /-- The parts given do not make up a version. -/
  | versionParts (fault : Version.PartsFault)
  | unknownScheme (name : Value)
  /-- A descriptor has no field of this name. -/
  | unknownField (name : String)
  /-- A certificate lacks paths. -/
  | missingPaths (names : List String)
  /-- A certificate has no path of this name. -/
  | unknownPath (name : String)
  /-- A certificate is given by a value of a kind that has no paths. -/
  | notPaths (kind : String)
  /-- The text of a variable does not convert. -/
  | conversion (fault : Settings.ConversionFault)
  /-- The values of variables break rules. -/
  | rejectedDefaults (faults : List Settings.Fault)
  | undecodable (fault : Text.Utf8.Fault)
  /-- A name or an argument holds the character that ends it. -/
  | embeddedNull
  | missingFile
  /-- A field of a descriptor was to be set. -/
  | frozenField (field : String)
  /-- Something that no descriptor has was to be set. -/
  | frozenDescriptor
  /-- A field of settings was to be set. -/
  | frozenSettings (field : String)
  /-- A field was to be set whose name is no text but of another kind. -/
  | notFieldName (kind : String)
  /-- Parts of settings were to be replaced. -/
  | notReplaced
  | unknownSlot (name : String)
  /-- A time limit is so large a number that it is never known to be over. -/
  | immeasurable
  | cancelled
  /-- A failure that is given by its kind, its words and what else is known of it. -/
  | stated (kind : FailureKind) (message : String) (details : Entries)

namespace Failure

/-- The kind of a fault of a value. -/
def kindOf : ValueFault → FailureKind
  | .noPart .. => .part
  | .unordered .. | .notIterable _ | .notLookedUp _ | .notJoined .. | .notName _ => .type

/-- The kind of a failure. -/
def kind : Failure → FailureKind
  | .configuration _ => .configuration
  | .invalidVersion .. => .invalidVersion
  | .missingAttribute _ => .invariant
  | .helper _ => .helper
  | .connection .. => .connection
  | .serverTooOld .. => .versionMismatch
  | .number _ | .version _ | .unknownScheme _ | .conversion _ | .embeddedNull => .value
  | .comparison (.number _) => .value
  | .value fault | .comparison (.value fault) | .versionParts (.value fault) => kindOf fault
  | .versionParts _ | .unknownField _ | .missingPaths _ | .unknownPath _ | .notPaths _
  | .frozenDescriptor | .notFieldName _ | .notReplaced => .type
  | .rejectedDefaults _ | .frozenSettings _ => .validation
  | .undecodable _ => .undecodable
  | .missingFile => .fileNotFound
  | .frozenField _ => .frozen
  | .unknownSlot _ => .lookup
  | .immeasurable => .overflow
  | .cancelled => .cancelled
  | .stated kind _ _ => kind

/-- Whether a failure is a request to cancel, which no handler of failures takes. -/
def isCancellation (failure : Failure) : Bool := failure.kind == .cancelled

/-- The failure to write a version. -/
def ofTextFault : Version.TextFault → Failure
  | .oversized => .number .oversized
  | .identifier fault => .value fault

/-- The words for an attribute whose value is no version, followed by the reason if one is given. -/
def invalidVersionWords (name literal reason : String) : String :=
  let text := "invalid version for '" ++ name ++ "' (" ++ literal ++ ")"
  if reason = "" then text else text ++ ": " ++ reason

/-- The words for the paths that a certificate lacks. -/
def missingPathsWords (names : List String) : String :=
  let plural := if names.length = 1 then "" else "s"
  "ClientCertificate.__init__() missing " ++ toString names.length
    ++ " required positional argument" ++ plural ++ ": " ++ " and ".intercalate (names.map quoted)

/-- The words for a failure. -/
def message : Failure → String
  | .configuration fault => fault.message
  | .invalidVersion name operand reason => invalidVersionWords name operand.literal reason
  | .missingAttribute name =>
    "Required attribute '" ++ name ++ "' is missing after schema validation"
  | .helper failure => failure.message
  | .connection host port database reason =>
    "Failed to connect to " ++ host.shown ++ ":" ++ port.shown ++ "/" ++ database.shown ++ ": "
      ++ reason
  | .serverTooOld host port actual expected =>
    "Server " ++ host.shown ++ ":" ++ port.shown ++ " runs PostgreSQL " ++ actual
      ++ ", expected at least " ++ expected
  | .number fault => fault.message
  | .value fault => fault.message
  | .version fault => fault.message
  | .comparison fault => fault.message
  | .versionParts fault => fault.message
  | .unknownScheme name => name.literal ++ " is not a valid Scheme"
  | .unknownField name =>
    "ConnectionDescriptor.__init__() got an unexpected keyword argument '" ++ name ++ "'"
  | .missingPaths names => missingPathsWords names
  | .unknownPath name =>
    "ClientCertificate.__init__() got an unexpected keyword argument '" ++ name ++ "'"
  | .notPaths kind =>
    "pgprovider.models.ClientCertificate() argument after ** must be a mapping, not " ++ kind
  | .conversion fault => fault.message
  | .rejectedDefaults faults =>
    "; ".intercalate (faults.map fun fault => fault.place ++ ": " ++ fault.rule.message)
  | .undecodable fault => fault.message
  | .embeddedNull => "embedded null byte"
  | .missingFile => FileFault.noSuchFile.numbered
  | .frozenField field => "cannot assign to field " ++ quoted field
  | .frozenDescriptor => "super(type, obj): obj must be an instance or subtype of type"
  | .frozenSettings field => field ++ ": Instance is frozen"
  | .notFieldName kind => "attribute name must be string, not '" ++ kind ++ "'"
  | .notReplaced => "replace() should be called on dataclass instances"
  | .unknownSlot name => quoted name
  | .immeasurable => "int too large to convert to float"
  | .cancelled => ""
  | .stated _ message _ => message

end Failure

end PostgresAccess
