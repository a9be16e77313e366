import PostgresAccess.Descriptor
import PostgresAccess.Helper.Runner
import PostgresAccess.Tunnel
import PostgresAccess.Version.Parser

/-!
# Assembling a descriptor

Assembling resolves settings to a descriptor.  First the target is resolved: the TLS mode, the
expected version, the host and the port, and the port of the tunnel if there is a jump host.  Then
the source of the password is found: a static password, even an empty one, is used as it is;
otherwise a helper is run if one is named, and its output without one line end is the password.
Last the descriptor is put together, for which a database and a user have to be named.

Settings that were not checked are assembled by the same rules, as far as their values support
them.

A report says what came of it, which notices were given, and which helpers were called; the first
failure ends the assembling.
-/

namespace PostgresAccess

/-- What an assembler is set up with. -/
structure Assembler where
  allocator : Tunnel.Allocator
  /-- The seconds that a helper may take. -/
  timeout : Value
  applicationName : Value

/-- What came of an assembling. -/
structure Report where
  outcome : Except Failure Descriptor
  notices : List Notice
  calls : List HelperCall

namespace Assembly

/-! ## The target -/

/-- The older name of the TLS mode is in force. -/
def usesLegacySslmode (s : Settings) : Bool := s.sslmode.isNull && s.legacySslmode.isFilled

/-- The TLS mode. -/
def resolveSslmode (s : Settings) : Value :=
  if s.sslmode.isNull then s.legacySslmode.filled else s.sslmode

/-- The notices about attributes that are out of date. -/
def deprecationNotices (s : Settings) : List Notice :=
  if usesLegacySslmode s then [.legacySslmode] else []

/-- The advice about attributes that are out of date. -/
def deprecations (s : Settings) : List Value :=
  if usesLegacySslmode s then [.text legacySslmodeAdvice] else []

/-- The version that is expected. -/
def resolveVersion (expected : Version.Operand) : Except Failure Version :=
  (Version.ofOperand expected).mapError fun fault =>
    .invalidVersion Field.expectedVersion.name expected fault.message

/-- Whether the value of an attribute that has to be there is missing. -/
def isMissing : Value → Bool
  | .null => true
  | .text s => s == ""
  | _ => false

/-- The value of an attribute that has to be there. -/
def require (f : Field) (v : Value) : Except Failure Value :=
  if isMissing v then .error (.missingAttribute f.name) else .ok v

/-- The port of the tunnel to a host and a port, if there is a jump host. -/
def tunnelPort? (allocator : Tunnel.Allocator) (host port jumphost : Value) :
    Except Failure (Option Nat) :=
  if jumphost.isFilled then ((Tunnel.port allocator host port).mapError .number).map some
  else .ok none

/-- What a connection is to reach. -/
structure Target where
  version : Version
  host : Value
  port : Value
  /-- The local port of the tunnel, if there is a jump host. -/
  tunneledPort : Option Nat

/-- What a connection is to reach, given the attributes. -/
def resolveTarget (allocator : Tunnel.Allocator) (expected : Version.Operand)
    (host port jumphost : Value) : Except Failure Target := do
  let version ← resolveVersion expected
  let host ← require .host host
  let port ← require .port port
  let tunneledPort ← tunnelPort? allocator host port jumphost
  return ⟨version, host, port, tunneledPort⟩

/-- What a connection with some settings is to reach. -/
def targetOf (allocator : Tunnel.Allocator) (s : Settings) : Except Failure Target :=
  resolveTarget allocator (.value s.expectedVersion) s.host s.port s.jumphost

/-- The notice about the tunnel to a target. -/
def tunnelNotices (jumphost : Value) (target : Target) : List Notice :=
  target.tunneledPort.toList.map fun entry => .tunnelled jumphost target.host target.port entry

/-! ## The password -/

/-- Where the password comes from. -/
inductive PasswordSource where
  | given (password : Value)
  | helper (call : HelperCall)

/-- A text without anything but white space counts as missing. -/
def isBlankText (s : String) : Bool := (Text.trim s.toList).isEmpty

/-- The call of the helper that a command line names, none if the line is blank. -/
def helperOfLine (timeout : Value) (line : String) : Except Failure PasswordSource :=
  if isBlankText line then .ok (.given (.text ""))
  else
    match Words.split line with
    | .error fault => .error (.configuration (.unsplit fault))
    | .ok [] => .error (.configuration .wordless)
    | .ok (command :: arguments) => .ok (.helper ⟨command, arguments, timeout⟩)

/-- Where the password comes from. -/
def passwordSource (timeout : Value) (s : Settings) : Except Failure PasswordSource :=
  if s.isPasswordSet then
    .ok (.given (if s.password.isFilled then s.password else .text ""))
  else
    match s.passwordCommand with
    | .text line => helperOfLine timeout line
    | v =>
      if v.isFilled then .error (.value (.noPart v.kindName "strip")) else .ok (.given (.text ""))

/-- The characters of a text without one line end at its end, given in reverse. -/
def dropLineEnd : List Char → List Char
  | '\n' :: '\r' :: rest => rest
  | '\n' :: rest => rest
  | cs => cs

/-- The output of a helper without one line end. -/
def stripLineEnd (output : String) : String :=
  String.ofList (dropLineEnd output.toList.reverse).reverse

/-! ## The descriptor -/

/-- The descriptor of a target with a certificate and a password. -/
def resolved (assembler : Assembler) (s : Settings) (target : Target)
    (clientCertificate : Option Certificate) (password : Value) : Descriptor where
  scheme := s.scheme
  host := target.host
  port := target.port
  database := s.database
  username := s.username
  expectedVersion := .version target.version
  password
  databaseUsername := s.databaseUsername.filled
  superuser := s.superuser
  sslmode := resolveSslmode s
  clientCertificate
  rootCertificate := s.rootCertificate.filled
  connectTimeout := s.connectTimeout
  maxConnections := s.maxConnections
  jumphost := s.jumphost.filled
  tunneledPort := .ofInt? (target.tunneledPort.map Int.ofNat)
  applicationName := assembler.applicationName
  deprecations := deprecations s

/-- The descriptor of a target with a password, if the settings name a certificate by its paths, a
database and a user. -/
def describe (assembler : Assembler) (s : Settings) (target : Target) (password : Value) :
    Except Failure Descriptor := do
  let clientCertificate ← (Certificate.ofContent? s.clientCertificate).mapError .value
  let _ ← require .database s.database
  let _ ← require .username s.username
  return resolved assembler s target clientCertificate password

/-- The notice about a descriptor. -/
def assembledNotice (d : Descriptor) : Notice :=
  .assembled d.scheme d.host d.port d.database d.username

/-- The report on a password that is known, after some notices and calls. -/
def complete (assembler : Assembler) (s : Settings) (target : Target) (password : Value)
    (notices : List Notice) (calls : List HelperCall) : Report :=
  match describe assembler s target password with
  | .error failure => ⟨.error failure, notices, calls⟩
  | .ok d => ⟨.ok d, notices ++ [assembledNotice d], calls⟩

end Assembly

open Assembly in
/-- Assembles the descriptor of some settings. -/
def assemble (assembler : Assembler) (runner : Runner) (s : Settings) : Report :=
  match targetOf assembler.allocator s with
  | .error failure => ⟨.error failure, deprecationNotices s, []⟩
  | .ok target =>
    let notices := deprecationNotices s ++ tunnelNotices s.jumphost target
    match passwordSource assembler.timeout s with
    | .error failure => ⟨.error failure, notices, []⟩
    | .ok (.given password) => complete assembler s target password notices []
    | .ok (.helper call) =>
      let reply := runner call
      match reply.outcome with
      | .error failure => ⟨.error failure, notices ++ reply.notices, [call]⟩
      | .ok output =>
        complete assembler s target (.text (stripLineEnd output)) (notices ++ reply.notices) [call]

open Assembly in
/-- What comes of assembling a descriptor as if it were settings: it fails where the first attribute
is needed that descriptors do not have. -/
def assembleDescriptor (assembler : Assembler) (d : Descriptor) : Report :=
  if d.sslmode.isNull then
    ⟨.error (.value (.noPart Descriptor.kindName Field.legacySslmode.name)), [], []⟩
  else
    match resolveTarget assembler.allocator d.expectedVersion d.host d.port d.jumphost with
    | .error failure => ⟨.error failure, [], []⟩
    | .ok target =>
      ⟨.error (.value (.noPart Descriptor.kindName "is_password_set")),
        tunnelNotices d.jumphost target, []⟩

end PostgresAccess
