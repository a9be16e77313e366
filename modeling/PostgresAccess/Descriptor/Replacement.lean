import PostgresAccess.Descriptor
import PostgresAccess.Settings.Reading
import PostgresAccess.Version.Parser

/-!
# Replacing parts of a descriptor

A descriptor does not change, but another one can be made of it with some parts replaced.  The parts
are given by name and are not checked, except that a scheme has to be one, that the advice is a
sequence, that a certificate has two paths, and that the name has to be that of a part.
-/

namespace PostgresAccess

/-- The certificate of named paths: both paths and nothing else. -/
def Certificate.ofPaths (paths : Entries) : Except Failure Certificate :=
  match paths.find? fun path => path.1 != "cert_path" && path.1 != "key_path",
    paths.get? "cert_path", paths.get? "key_path" with
  | some (name, _), _, _ => .error (.unknownPath name)
  | none, some cert, some key => .ok ⟨cert, key⟩
  | none, some _, none => .error (.missingPaths ["key_path"])
  | none, none, some _ => .error (.missingPaths ["cert_path"])
  | none, none, none => .error (.missingPaths ["cert_path", "key_path"])

/-- The certificate that a value gives, if it gives one. -/
def Certificate.ofValue? : Value → Except Failure (Option Certificate)
  | .null => .ok none
  | .table paths => (Certificate.ofPaths paths).map some
  | v => .error (.notPaths v.kindName)

namespace Descriptor

/-- The names of the parts. -/
def partNames : List String :=
  ["scheme", "host", "port", "database", "username", "expected_version", "password",
    "database_username", "superuser", "sslmode", "client_certificate", "sslrootcert",
    "connect_timeout", "max_connections", "jumphost", "tunneled_port", "application_name",
    "deprecations"]

/-- The parts that are converted before they replace others. -/
structure Replacement where
  scheme : Option Scheme
  expectedVersion : Option Version.Operand
  clientCertificate : Option (Option Certificate)
  deprecations : Option (List Value)
  /-- All parts, of which those that are not converted are used. -/
  parts : Entries

/-- Converts the parts that are no plain values; the expected version is given on its own. -/
def Replacement.ofParts (expected : Except Failure (Option Version.Operand)) (parts : Entries) :
    Except Failure Replacement := do
  let scheme ← (parts.get? "scheme").mapM Scheme.ofValue
  let expectedVersion ← expected
  let clientCertificate ← (parts.get? "client_certificate").mapM Certificate.ofValue?
  let deprecations ← (parts.get? "deprecations").mapM fun v => v.members.mapError .value
  return { scheme, expectedVersion, clientCertificate, deprecations, parts }

/-- The descriptor with some parts replaced, if all of them have the names of parts. -/
def replace (d : Descriptor) (r : Replacement) : Except Failure Descriptor :=
  match r.parts.find? fun part => !partNames.contains part.1 with
  | some (name, _) => .error (.unknownField name)
  | none =>
    let part (name : String) (old : Value) : Value := (r.parts.get? name).getD old
    .ok {
      scheme := r.scheme.getD d.scheme
      host := part "host" d.host
      port := part "port" d.port
      database := part "database" d.database
      username := part "username" d.username
      expectedVersion := r.expectedVersion.getD d.expectedVersion
      password := part "password" d.password
      databaseUsername := part "database_username" d.databaseUsername
      superuser := part "superuser" d.superuser
      sslmode := part "sslmode" d.sslmode
      clientCertificate := r.clientCertificate.getD d.clientCertificate
      rootCertificate := part "sslrootcert" d.rootCertificate
      connectTimeout := part "connect_timeout" d.connectTimeout
      maxConnections := part "max_connections" d.maxConnections
      jumphost := part "jumphost" d.jumphost
      tunneledPort := part "tunneled_port" d.tunneledPort
      applicationName := part "application_name" d.applicationName
      deprecations := r.deprecations.getD d.deprecations }

/-- Why a part of a descriptor is not set. -/
def settingFailure (name : String) : Failure :=
  if partNames.contains name then .frozenField name else .frozenDescriptor

end Descriptor

end PostgresAccess
