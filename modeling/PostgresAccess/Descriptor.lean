import PostgresAccess.Settings
import PostgresAccess.Version.Operand

/-!
# Descriptors

A descriptor holds everything that is needed to open a connection, fully resolved, and does not
change.  It is shown in two ways, and neither shows the password: `redacted` is a table in which the
password is masked, and `literal` leaves it out.

A descriptor that was assembled of checked settings holds texts, numbers and truth values.  One that
is put together of parts may hold any values, but the scheme is a scheme and the certificate, if
there is one, has two paths.
-/

namespace PostgresAccess

open Text (quoted)

/-- The resolved parameters of a connection. -/
structure Descriptor where
  scheme : Scheme
  host : Value
  port : Value
  database : Value
  username : Value
  expectedVersion : Version.Operand
  /-- The password; empty for none. -/
  password : Value
  databaseUsername : Value
  superuser : Value
  sslmode : Value
  clientCertificate : Option Certificate
  rootCertificate : Value
  /-- The seconds that opening may take; without bound if it is not positive. -/
  connectTimeout : Value
  maxConnections : Value
  jumphost : Value
  /-- The local port of the tunnel through the jump host. -/
  tunneledPort : Value
  applicationName : Value
  /-- Advice about attributes that are out of date. -/
  deprecations : List Value

/-- The application name that connections have unless another one is given. -/
def defaultApplicationName : String := "pgprovider"

/-- A certificate that may be missing, as a value. -/
def Value.ofCertificate? : Option Certificate → Value
  | none => .null
  | some c => c.toBlock

namespace Descriptor

/-- The name of the kind of all descriptors. -/
def kindName : String := "ConnectionDescriptor"

/-- The descriptor of a target, with a standard value for everything else. -/
def ofTarget (host : String) (port : Int) (database username : String) (expected : Version) :
    Descriptor where
  scheme := .postgres
  host := .text host
  port := .int port
  database := .text database
  username := .text username
  expectedVersion := .version expected
  password := .text ""
  databaseUsername := .null
  superuser := .bool true
  sslmode := .null
  clientCertificate := none
  rootCertificate := .null
  connectTimeout := .int 180
  maxConnections := .int 20
  jumphost := .null
  tunneledPort := .null
  applicationName := .text defaultApplicationName
  deprecations := []

/-- The mask of a password: an empty password shows that it is empty. -/
def maskedPassword (d : Descriptor) : String := if d.password.isFilled then "********" else ""

/-- The table of the descriptor, with the password masked. -/
def redacted (d : Descriptor) : Except Version.TextFault Entries := do
  let expected ← d.expectedVersion.shown
  return [("scheme", .text d.scheme.name),
    ("host", d.host),
    ("port", d.port),
    ("database", d.database),
    ("username", d.username),
    ("database_username", d.databaseUsername),
    ("password", .text d.maskedPassword),
    ("superuser", d.superuser),
    ("sslmode", d.sslmode),
    ("clientcert", .ofCertificate? d.clientCertificate),
    ("sslrootcert", d.rootCertificate),
    ("connect_timeout", d.connectTimeout),
    ("max_connections", d.maxConnections),
    ("expected_version", .text expected),
    ("jumphost", d.jumphost),
    ("tunneled_port", d.tunneledPort),
    ("application_name", d.applicationName)]

/-- The literal of a certificate that may be missing. -/
def certificateLiteral : Option Certificate → String
  | none => "None"
  | some c =>
    "ClientCertificate(cert_path=" ++ c.cert.literal ++ ", key_path=" ++ c.key.literal ++ ")"

/-- The literal of the descriptor, which leaves out the password. -/
def literal (d : Descriptor) : String :=
  kindName ++ "(" ++ commaSeparated
    ["scheme=" ++ d.scheme.literal,
      "host=" ++ d.host.literal,
      "port=" ++ d.port.literal,
      "database=" ++ d.database.literal,
      "username=" ++ d.username.literal,
      "expected_version=" ++ d.expectedVersion.literal,
      "database_username=" ++ d.databaseUsername.literal,
      "superuser=" ++ d.superuser.literal,
      "sslmode=" ++ d.sslmode.literal,
      "client_certificate=" ++ certificateLiteral d.clientCertificate,
      "sslrootcert=" ++ d.rootCertificate.literal,
      "connect_timeout=" ++ d.connectTimeout.literal,
      "max_connections=" ++ d.maxConnections.literal,
      "jumphost=" ++ d.jumphost.literal,
      "tunneled_port=" ++ d.tunneledPort.literal,
      "application_name=" ++ d.applicationName.literal,
      "deprecations=" ++ tupleLiteral (literals d.deprecations)] ++ ")"

/-- The parameters that are values, in the order of the descriptor. -/
def values (d : Descriptor) : List Value :=
  [d.host, d.port, d.database, d.username, d.password, d.databaseUsername, d.superuser, d.sslmode,
    .ofCertificate? d.clientCertificate, d.rootCertificate, d.connectTimeout, d.maxConnections,
    d.jumphost, d.tunneledPort, d.applicationName, .list d.deprecations]

/-- The same parameters; the build of the expected version does not count. -/
def equals (a b : Descriptor) : Bool :=
  a.scheme == b.scheme && a.expectedVersion.equals b.expectedVersion
    && equalValues a.values b.values

end Descriptor

end PostgresAccess
