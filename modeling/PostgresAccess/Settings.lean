import PostgresAccess.Value.Literal
import PostgresAccess.Value.Order

/-!
# Connection settings

The settings of a connection as they are given, before they are resolved: seventeen fields, each
with a name in documents.  `Field` lists them in the order of the schema; `Settings.get` and
`Settings.ofFields` view the settings as a function on the fields, so that a statement about all
fields is one statement.

Settings that were read from a document satisfy the rules of `PostgresAccess.Settings.Rule`.
Settings may also be put together without being checked: then any field but the scheme can hold any
value.  The content of a field is therefore a value; `Field.isDeclared` says which values are of the
kind that the field is meant for.
-/

namespace PostgresAccess

open Text (quoted)

/-- The kinds of service that speak the protocol. -/
inductive Scheme where
  | postgres
  | awsPostgres
  | gcpPostgres
deriving DecidableEq, Repr

namespace Scheme

/-- The name of a scheme in documents and messages. -/
def name : Scheme → String
  | .postgres => "postgres"
  | .awsPostgres => "awspostgres"
  | .gcpPostgres => "gcppostgres"

/-- Every scheme. -/
def all : List Scheme := [postgres, awsPostgres, gcpPostgres]

/-- The scheme of a name. -/
def ofName? (name : String) : Option Scheme := all.find? fun scheme => scheme.name == name

/-- The literal of a scheme. -/
def literal (scheme : Scheme) : String :=
  let label := match scheme with
    | .postgres => "POSTGRES"
    | .awsPostgres => "AWS_POSTGRES"
    | .gcpPostgres => "GCP_POSTGRES"
  "<Scheme." ++ label ++ ": " ++ quoted scheme.name ++ ">"

end Scheme

/-- A field of the settings. -/
inductive Field where
  | scheme
  | host
  | port
  | database
  | username
  | password
  | passwordCommand
  | databaseUsername
  | superuser
  | sslmode
  | legacySslmode
  | clientCertificate
  | rootCertificate
  | connectTimeout
  | maxConnections
  | expectedVersion
  | jumphost
deriving DecidableEq, Repr

namespace Field

/-- The fields in the order of the schema. -/
def all : List Field :=
  [scheme, host, port, database, username, password, passwordCommand, databaseUsername, superuser,
    sslmode, legacySslmode, clientCertificate, rootCertificate, connectTimeout, maxConnections,
    expectedVersion, jumphost]

/-- The key of a field in documents. -/
def name : Field → String
  | .scheme => "scheme"
  | .host => "host"
  | .port => "port"
  | .database => "database"
  | .username => "username"
  | .password => "password"
  | .passwordCommand => "password_command"
  | .databaseUsername => "database_username"
  | .superuser => "superuser"
  | .sslmode => "sslmode"
  | .legacySslmode => "ssl_mode"
  | .clientCertificate => "clientcert"
  | .rootCertificate => "sslrootcert"
  | .connectTimeout => "connect_timeout"
  | .maxConnections => "max_connections"
  | .expectedVersion => "expected_version"
  | .jumphost => "jumphost"

/-- The field of a key. -/
def ofName? (name : String) : Option Field := all.find? fun field => field.name == name

/-- The field whose name stands in messages with its value masked, whatever the value. -/
def isSecret : Field → Bool
  | .password | .passwordCommand => true
  | _ => false

/-- The type of the content of a field. -/
abbrev Content : Field → Type
  | .scheme => Scheme
  | _ => Value

/-- The content of a field as a value. -/
def toValue : (f : Field) → f.Content → Value
  | .scheme, service => .text service.name
  | .host, v | .port, v | .database, v | .username, v | .password, v | .passwordCommand, v
  | .databaseUsername, v | .superuser, v | .sslmode, v | .legacySslmode, v
  | .clientCertificate, v | .rootCertificate, v | .connectTimeout, v | .maxConnections, v
  | .expectedVersion, v | .jumphost, v => v

/-- Whether a content is of the kind that a field is meant for, or missing. -/
def isDeclared (f : Field) (content : f.Content) : Bool :=
  match f, f.toValue content with
  | .scheme, _ => true
  | .port, v | .connectTimeout, v | .maxConnections, v => v.isNull || v.int?.isSome
  | .superuser, v => v.isNull || v.bool?.isSome
  | .clientCertificate, .table [("cert", .text _), ("key", .text _)] => true
  | .clientCertificate, v => v.isNull
  | _, v => v.isNull || v.text?.isSome

end Field

/-- The settings of a connection. -/
structure Settings where
  scheme : Scheme
  host : Value
  port : Value
  database : Value
  username : Value
  /-- The static password: missing, or given and perhaps empty. -/
  password : Value
  /-- The command line of the helper that prints the password. -/
  passwordCommand : Value
  databaseUsername : Value
  superuser : Value
  sslmode : Value
  /-- The older name of `sslmode`, in force only when that is missing. -/
  legacySslmode : Value
  /-- Missing, or a table that holds the paths of a certificate and of its key. -/
  clientCertificate : Value
  rootCertificate : Value
  connectTimeout : Value
  maxConnections : Value
  expectedVersion : Value
  jumphost : Value

namespace Settings

/-- The content of a field. -/
def get (s : Settings) : (f : Field) → f.Content
  | .scheme => s.scheme
  | .host => s.host
  | .port => s.port
  | .database => s.database
  | .username => s.username
  | .password => s.password
  | .passwordCommand => s.passwordCommand
  | .databaseUsername => s.databaseUsername
  | .superuser => s.superuser
  | .sslmode => s.sslmode
  | .legacySslmode => s.legacySslmode
  | .clientCertificate => s.clientCertificate
  | .rootCertificate => s.rootCertificate
  | .connectTimeout => s.connectTimeout
  | .maxConnections => s.maxConnections
  | .expectedVersion => s.expectedVersion
  | .jumphost => s.jumphost

/-- The settings with given contents. -/
def ofFields (content : (f : Field) → f.Content) : Settings where
  scheme := content .scheme
  host := content .host
  port := content .port
  database := content .database
  username := content .username
  password := content .password
  passwordCommand := content .passwordCommand
  databaseUsername := content .databaseUsername
  superuser := content .superuser
  sslmode := content .sslmode
  legacySslmode := content .legacySslmode
  clientCertificate := content .clientCertificate
  rootCertificate := content .rootCertificate
  connectTimeout := content .connectTimeout
  maxConnections := content .maxConnections
  expectedVersion := content .expectedVersion
  jumphost := content .jumphost

/-- The contents are those that the settings were made of. -/
@[simp] theorem get_ofFields (content : (f : Field) → f.Content) (f : Field) :
    (ofFields content).get f = content f := by
  cases f <;> rfl

/-- Settings are determined by their contents. -/
@[simp] theorem ofFields_get (s : Settings) : ofFields s.get = s := rfl

/-- The settings with another content of one field. -/
def set (s : Settings) (f : Field) (content : f.Content) : Settings :=
  ofFields fun g => if h : f = g then h ▸ content else s.get g

/-- The content that was set. -/
@[simp] theorem get_set_self (s : Settings) (f : Field) (content : f.Content) :
    (s.set f content).get f = content := by
  simp [set]

/-- Setting a field leaves the others as they are. -/
theorem get_set_of_ne (s : Settings) {f g : Field} (content : f.Content) (h : f ≠ g) :
    (s.set f content).get g = s.get g := by
  simp [set, h]

/-- Whether every field holds what it is meant for, or nothing. -/
def areDeclared (s : Settings) : Bool := Field.all.all fun f => f.isDeclared (s.get f)

/-- A static password was given, even an empty one. -/
def isPasswordSet (s : Settings) : Bool := !s.password.isNull

/-- The name of the kind of all settings. -/
def kindName : String := "ProviderConfig"

end Settings

/-! ## Certificates -/

/-- The paths of a client certificate and of its private key. -/
structure Certificate where
  cert : Value
  key : Value

namespace Certificate

/-- The name of the kind of the block that holds a certificate. -/
def blockName : String := "ClientCertificateConfig"

/-- The block of a certificate. -/
def toBlock (c : Certificate) : Value := .table [("cert", c.cert), ("key", c.key)]

/-- A path of a block. -/
def pathOf (entries : Entries) (name : String) : Except ValueFault Value :=
  match entries.get? name with
  | some v => .ok v
  | none => .error (.noPart blockName name)

/-- The certificate of the content of a field, if there is one.  A block has to hold both paths, and
a value that is no block holds none. -/
def ofContent? : Value → Except ValueFault (Option Certificate)
  | .null => .ok none
  | .table entries => do
    let cert ← pathOf entries "cert"
    let key ← pathOf entries "key"
    return some ⟨cert, key⟩
  | v => .error (.noPart v.kindName "cert")

end Certificate

/-! ## Settings as values -/

namespace Settings

/-- The table of all fields, under their names and in the order of the schema. -/
def toEntries (s : Settings) : Entries := Field.all.map fun f => (f.name, f.toValue (s.get f))

instance : BEq Settings :=
  ⟨fun s t => Field.all.all fun f => f.toValue (s.get f) == f.toValue (t.get f)⟩

/-- The literal of the paths of a certificate that a block holds. -/
def blockLiteral (entries : Entries) : String :=
  Certificate.blockName ++ "(" ++ commaSeparated (entries.map fun (name, v) =>
    name ++ "=" ++ v.literal) ++ ")"

/-- The literal of the content of a field. -/
def fieldLiteral (s : Settings) (f : Field) : String :=
  match f, s.clientCertificate with
  | .scheme, _ => s.scheme.literal
  | .clientCertificate, .table entries => blockLiteral entries
  | f, _ => (f.toValue (s.get f)).literal

/-- The literal of the settings, which leaves out the secret fields. -/
def literal (s : Settings) : String :=
  kindName ++ "(" ++ commaSeparated ((Field.all.filter fun f => !f.isSecret).map fun f =>
    f.name ++ "=" ++ s.fieldLiteral f) ++ ")"

end Settings

end PostgresAccess
