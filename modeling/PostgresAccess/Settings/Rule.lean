import PostgresAccess.Environment
import PostgresAccess.Numeral.Lenient
import PostgresAccess.Settings.Fault

/-!
# The rules of the fields

`check` says for each field which values of a document it accepts and what content they stand for.
Numbers and truth values are read leniently: integral floating-point numbers, truth values and
texts of digits are integers, and the usual words for yes and no are truth values.

`fallback` gives the value of a field that the document lacks: the text of its environment variable
if that is set, converted to the kind of the field, and a fixed value otherwise.  It is checked like
a value of the document.
-/

namespace PostgresAccess.Settings

open Numeral (Binary64 IntegerFault readInteger readLenient)
open Text (quoted trim)

/-! ## Integers -/

/-- Reads an integer from a text. -/
def integerOfText (s : String) : Except Rule Int :=
  (readLenient s).mapError fun
    | .malformed => .integerText
    | .tooLong => .withinSize

/-- The least number that is too large for a signed word of 64 bits. -/
def wordEnd : Int := 0x8000000000000000

/-- Whether a number fits into a signed word of 64 bits. -/
def fitsWord (n : Int) : Bool := -wordEnd ≤ n && n < wordEnd

/-- Whether an integral floating-point number is read as an integer. -/
def isInWord (n : Int) : Bool := -wordEnd < n && n < wordEnd

/-- Reads an integer from a floating-point number. -/
def integerOfReal (x : Binary64) : Except Rule Int :=
  if !x.isFinite then .error .finite
  else
    match x.toInt? with
    | none => .error .integral
    | some n => if isInWord n then .ok n else .error .withinSize

/-- Reads an integer. -/
def integerOf : Value → Except Rule Int
  | .int n => .ok n
  | .bool b => .ok (if b then 1 else 0)
  | .real x => integerOfReal x
  | .text s => integerOfText s
  | _ => .error .integer

/-- Refuses a number outside of some bounds. -/
def within (low : Int) (high : Option Int) (n : Int) : Except Rule Int :=
  if n < low then .error (.atLeast low)
  else
    match high with
    | none => .ok n
    | some high => if high < n then .error (.atMost high) else .ok n

/-! ## Truth values -/

/-- The words for yes. -/
def wordsForTrue : List String := ["1", "t", "true", "y", "yes", "on"]

/-- The words for no. -/
def wordsForFalse : List String := ["0", "f", "false", "n", "no", "off"]

/-- A text with its ASCII letters in lower case. -/
def lowercase (cs : List Char) : String := String.ofList (cs.map Char.toLower)

/-- Reads a truth value. -/
def boolOf : Value → Except Rule Bool
  | .bool b => .ok b
  | .int n =>
    if n = 1 then .ok true
    else if n = 0 then .ok false
    else if fitsWord n then .error .boolText
    else .error .bool
  | .real x =>
    match x.toInt? with
    | some 1 => .ok true
    | some 0 => .ok false
    | some n => if isInWord n then .error .boolText else .error .bool
    | none => .error .bool
  | .text s =>
    if wordsForTrue.contains (lowercase s.toList) then .ok true
    else if wordsForFalse.contains (lowercase s.toList) then .ok false
    else .error .boolText
  | _ => .error .bool

/-! ## Texts -/

/-- Reads a text. -/
def textOf : Value → Except Rule String
  | .text s => .ok s
  | _ => .error .text

/-- Reads a text that is not empty. -/
def nonEmptyTextOf (v : Value) : Except Rule String := do
  let s ← textOf v
  if s = "" then throw .notEmpty else return s

/-- Reads a text that may be missing. -/
def optionalTextOf : Value → Except Rule Value
  | .null => .ok .null
  | v => (textOf v).map .text

/-- Reads the name of a scheme. -/
def schemeOf : Value → Except Rule Scheme
  | .text s =>
    match Scheme.ofName? s with
    | some scheme => .ok scheme
    | none => .error .scheme
  | _ => .error .scheme

/-- Accepts the text of a version as it is. -/
def versionTextOf (v : Value) : Except Rule String := do
  let s ← textOf v
  match Version.parse s with
  | .ok _ => return s
  | .error fault => throw (.version fault)

/-! ## Certificates -/

/-- One path of a certificate. -/
def certificatePath (entries : Entries) (key : String) : Except Fault String :=
  match entries.get? key with
  | none => .error ⟨[Field.clientCertificate.name, key], .required, .table entries⟩
  | some v => (nonEmptyTextOf v).mapError fun rule => ⟨[Field.clientCertificate.name, key], rule, v⟩

/-- The faults of the keys that a certificate does not have. -/
def unknownCertificateKeys (entries : Entries) : List Fault :=
  (entries.filter fun entry => entry.1 != "cert" && entry.1 != "key").map fun (key, v) =>
    ⟨[Field.clientCertificate.name, key], .noSuchField, v⟩

/-- The fault of a failed reading, none for a reading that succeeded. -/
def faultOf {α : Type} : Except Fault α → List Fault
  | .ok _ => []
  | .error fault => [fault]

/-- Reads a certificate from a table. -/
def certificateOfTable (entries : Entries) : Except (List Fault) Certificate :=
  match certificatePath entries "cert", certificatePath entries "key",
    unknownCertificateKeys entries with
  | .ok cert, .ok key, [] => .ok ⟨.text cert, .text key⟩
  | cert, key, unknown => .error (faultOf cert ++ faultOf key ++ unknown)

/-- Reads the block of a certificate: missing, a table, or a list of at most one of these. -/
def certificateBlockOf (v : Value) : Except (List Fault) Value :=
  let block : Except (List Fault) Value := match v with
    | .list [] => .ok .null
    | .list [only] => .ok only
    | .list _ => .error [⟨[Field.clientCertificate.name], .oneCertificate, v⟩]
    | v => .ok v
  match block with
  | .error faults => .error faults
  | .ok .null => .ok .null
  | .ok (.table entries) => (certificateOfTable entries).map Certificate.toBlock
  | .ok other =>
    .error [⟨[Field.clientCertificate.name], .table Certificate.blockName, other⟩]

/-! ## All fields -/

/-- The result of a rule at a field. -/
def atField {α : Type} (f : Field) (v : Value) (result : Except Rule α) : Except (List Fault) α :=
  result.mapError fun rule => [⟨[f.name], rule, v⟩]

/-- The content that a value gives to a field, or the rules that it breaks. -/
def check (f : Field) (v : Value) : Except (List Fault) f.Content :=
  match f with
  | .scheme => atField .scheme v (schemeOf v)
  | .host => atField .host v ((nonEmptyTextOf v).map .text)
  | .port => atField .port v ((integerOf v >>= within 1 (some 65535)).map .int)
  | .database => atField .database v ((nonEmptyTextOf v).map .text)
  | .username => atField .username v ((nonEmptyTextOf v).map .text)
  | .password => atField .password v (optionalTextOf v)
  | .passwordCommand => atField .passwordCommand v (optionalTextOf v)
  | .databaseUsername => atField .databaseUsername v (optionalTextOf v)
  | .superuser => atField .superuser v ((boolOf v).map .bool)
  | .sslmode => atField .sslmode v (optionalTextOf v)
  | .legacySslmode => atField .legacySslmode v (optionalTextOf v)
  | .clientCertificate => certificateBlockOf v
  | .rootCertificate => atField .rootCertificate v (optionalTextOf v)
  | .connectTimeout => atField .connectTimeout v ((integerOf v >>= within (-1) none).map .int)
  | .maxConnections => atField .maxConnections v ((integerOf v >>= within (-1) none).map .int)
  | .expectedVersion => atField .expectedVersion v ((versionTextOf v).map .text)
  | .jumphost => atField .jumphost v (optionalTextOf v)

/-! ## Fields that a document lacks -/

/-- Why the text of a variable does not convert. -/
inductive ConversionFault where
  | integer (fault : IntegerFault)
  | bool (text : String)
deriving DecidableEq, Repr

/-- The words for a conversion fault. -/
def ConversionFault.message : ConversionFault → String
  | .integer fault => fault.message
  | .bool text => "invalid boolean value (" ++ quoted text ++ ")"

/-- The variable that supplies a field. -/
def supplier? : Field → Option Variable
  | .host => some .host
  | .port => some .port
  | .database => some .database
  | .username => some .user
  | .password => some .password
  | .superuser => some .superuser
  | .sslmode => some .sslmode
  | .connectTimeout => some .connectTimeout
  | _ => none

/-- Converts the text of a variable to a truth value. -/
def boolOfVariable (text : String) : Except ConversionFault Bool :=
  let word := lowercase (trim text.toList)
  if ["1", "t", "true", "yes", "on"].contains word then .ok true
  else if ["0", "f", "false", "no", "off"].contains word then .ok false
  else .error (.bool text)

/-- Converts the text of a variable to the kind of a field. -/
def convert (f : Field) (text : String) : Except ConversionFault Value :=
  match f with
  | .port | .connectTimeout => ((readInteger text).mapError .integer).map .int
  | .superuser => (boolOfVariable text).map .bool
  | _ => .ok (.text text)

/-- The value of a field that neither the document nor the environment gives. -/
def standard : Field → Value
  | .scheme => .text "postgres"
  | .host => .text "localhost"
  | .port => .int 5432
  | .database => .text "postgres"
  | .username => .text "postgres"
  | .superuser => .bool true
  | .connectTimeout => .int 180
  | .maxConnections => .int 20
  | .expectedVersion => .text "9.0.0"
  | .password | .passwordCommand | .databaseUsername | .sslmode | .legacySslmode
  | .clientCertificate | .rootCertificate | .jumphost => .null

/-- The value of a field that the document does not give. -/
def fallback (env : Environment) (f : Field) : Except ConversionFault Value :=
  match supplier? f with
  | none => .ok (standard f)
  | some v =>
    match env.text? v with
    | none => .ok (standard f)
    | some text => convert f text

end PostgresAccess.Settings
