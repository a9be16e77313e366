import PostgresAccess.Settings
import PostgresAccess.Version.Parser

/-!
# Why settings are rejected

A fault is a rule that a value of a document breaks, with the place of the value in the document.
Its description names the place, says the rule and shows the value; the value of a secret field is
masked, whatever it is.
-/

namespace PostgresAccess.Settings

/-- A rule that a value breaks. -/
inductive Rule where
  /-- No field has this key. -/
  | noSuchField
  /-- The table lacks a key. -/
  | required
  /-- A table of the named kind is expected. -/
  | table (kind : String)
  | text
  | notEmpty
  | scheme
  | integer
  /-- The text is no integer. -/
  | integerText
  /-- The number has a fractional part. -/
  | integral
  | finite
  /-- The number is beyond the size that is read. -/
  | withinSize
  | atLeast (bound : Int)
  | atMost (bound : Int)
  | bool
  /-- The text or the number stands for no truth value. -/
  | boolText
  | oneCertificate
  | version (fault : Version.Fault)

/-- The words for a rule. -/
def Rule.message : Rule → String
  | .noSuchField => "Extra inputs are not permitted"
  | .required => "Field required"
  | .table kind => "Input should be a valid dictionary or instance of " ++ kind
  | .text => "Input should be a valid string"
  | .notEmpty => "String should have at least 1 character"
  | .scheme => "Input should be 'postgres', 'awspostgres' or 'gcppostgres'"
  | .integer => "Input should be a valid integer"
  | .integerText => "Input should be a valid integer, unable to parse string as an integer"
  | .integral => "Input should be a valid integer, got a number with a fractional part"
  | .finite => "Input should be a finite number"
  | .withinSize => "Unable to parse input string as an integer, exceeded maximum size"
  | .atLeast bound => "Input should be greater than or equal to " ++ toString bound
  | .atMost bound => "Input should be less than or equal to " ++ toString bound
  | .bool => "Input should be a valid boolean"
  | .boolText => "Input should be a valid boolean, unable to interpret input"
  | .oneCertificate => "Value error, at most one clientcert block is allowed"
  | .version fault => "Value error, " ++ fault.message

/-- A value of a document that breaks a rule. -/
structure Fault where
  /-- The keys that lead to the value from the top of the document. -/
  location : List String
  rule : Rule
  /-- The value, or the table that lacks one. -/
  input : Value

namespace Fault

/-- The keys of the place with dots between them. -/
def place (fault : Fault) : String :=
  let keys := ".".intercalate fault.location
  if keys = "" then "<root>" else keys

/-- Whether the place is that of a secret field. -/
def isSecret (fault : Fault) : Bool :=
  Field.all.any fun f => f.isSecret && f.name == fault.place

/-- The value that the description shows: a mask instead of a secret. -/
def shown (fault : Fault) : Value :=
  if fault.isSecret then .text "********" else fault.input

/-- The place, the rule and the value. -/
def describe (fault : Fault) : String :=
  fault.place ++ ": " ++ fault.rule.message ++ " (got " ++ fault.shown.literal ++ ")"

end Fault

end PostgresAccess.Settings
