import PostgresAccess.Descriptor
import PostgresAccess.Failure
import PostgresAccess.Notice
import PostgresAccess.Version.Comparison

/-!
# Opening a connection

A descriptor determines the arguments with which the driver is called.  A connection through a jump
host goes to the local end of its tunnel.  If there is TLS material, the TLS argument is a context
whose checks depend on the mode; otherwise it is the mode itself.

`connect` calls the driver and lets only a server pass that is new enough.  A connection that is
opened and not returned has been closed, unless a request to cancel came in between.

What lies outside is given: the TLS library, which reads the files of certificates, and the driver.
Each of their calls succeeds or fails in any way.  A failure is told in words that name the server,
and a number of too many digits has none; then the failure is that of writing it.
-/

namespace PostgresAccess

/-! ## TLS -/

namespace Tls

/-- A context of the TLS library: what it trusts, what it checks, and what it shows. -/
structure Context where
  /-- The file of the trusted authorities; the system's if there is none. -/
  authorities : Value
  checksHostname : Bool
  checksCertificate : Bool
  /-- The certificate that the client shows. -/
  chain : Option Certificate

/-- A new context, which checks everything. -/
def Context.strict (authorities : Value) : Context := ⟨authorities, true, true, none⟩

/-- A TLS argument: a mode, or a context. -/
inductive Argument where
  | mode (v : Value)
  | context (c : Context)

/-- Whether a mode is that of a name. -/
def isMode (mode : Value) (name : String) : Bool := mode.text? == some name

/-- Whether a mode asks for a verified certificate. -/
def verifiesCertificate (mode : Value) : Bool :=
  isMode mode "verify-ca" || isMode mode "verify-full"

/-- A context without the checks that a mode does not ask for: a mode that verifies no certificate
leaves none, and `verify-ca` leaves that of the certificate alone. -/
def Context.relaxed (context : Context) (mode : Value) : Context :=
  if !verifiesCertificate mode then
    { context with checksHostname := false, checksCertificate := false }
  else if isMode mode "verify-ca" then { context with checksHostname := false }
  else context

/-- What comes of the calls of the TLS library, which depends on the files that they read. -/
structure Library where
  /-- What comes of making a new context that trusts the authorities of a file. -/
  trust : Value → Except Failure Unit
  /-- What comes of giving a context the certificate of the client. -/
  identify : Context → Certificate → Except Failure Unit

/-- A library whose calls all succeed. -/
def Library.permissive : Library := ⟨fun _ => .ok (), fun _ _ => .ok ()⟩

/-- A context with the certificate of the client, if there is one. -/
def Context.withChain (library : Library) (context : Context) :
    Option Certificate → Except Failure Context
  | none => .ok context
  | some chain => (library.identify context chain).map fun _ => { context with chain }

/-- The context of a mode and of TLS material; the mode is looked up among the known ones. -/
def context (library : Library) (mode authorities : Value) (chain : Option Certificate) :
    Except Failure Context := do
  library.trust authorities
  match mode.lookUpFault? with
  | some fault => .error (.value fault)
  | none => ((Context.strict authorities).relaxed mode).withChain library chain

/-- The TLS argument, if there is one. -/
def argument (library : Library) (d : Descriptor) : Except Failure (Option Argument) :=
  if d.clientCertificate.isNone && d.rootCertificate.isNull then
    .ok (if d.sslmode.isFilled then some (.mode d.sslmode) else none)
  else if isMode d.sslmode "disable" then .ok (some (.mode d.sslmode))
  else
    (context library d.sslmode d.rootCertificate d.clientCertificate).map fun c =>
      some (.context c)

end Tls

/-! ## Arguments -/

/-- The arguments of the driver. -/
structure ConnectArguments where
  host : Value
  port : Value
  user : Value
  password : Option Value
  database : Value
  /-- The seconds that opening may take; missing if they are not bounded. -/
  timeout : Value
  tls : Option Tls.Argument
  applicationName : Value

namespace Client

/-- The host at which tunnels are entered. -/
def tunnelHost : String := "127.0.0.1"

/-- The host and the port that the driver is to reach. -/
def address (d : Descriptor) : Value × Value :=
  if d.jumphost.isFilled && !d.tunneledPort.isNull then (.text tunnelHost, d.tunneledPort)
  else (d.host, d.port)

/-- The seconds that opening may take; a number that is not positive stands for no bound. -/
def bound (timeout : Value) : Except Failure Value := do
  let isPositive ← (timeout.related .after (.int 0)).mapError .value
  return if isPositive then timeout else .null

/-- The notices about a scheme. -/
def schemeNotices (scheme : Scheme) : List Notice :=
  if scheme = .postgres then [] else [.unsupportedScheme scheme]

/-- The notices about the arguments. -/
def argumentNotices (d : Descriptor) : List Notice := schemeNotices d.scheme

/-- The arguments of the driver. -/
def arguments (library : Tls.Library) (d : Descriptor) : Except Failure ConnectArguments := do
  let timeout ← bound d.connectTimeout
  let tls ← Tls.argument library d
  let (host, port) := address d
  return {
    host
    port
    user := d.username
    password := if d.password.isFilled then some d.password else none
    database := d.database
    timeout
    tls
    applicationName := d.applicationName }

/-- Why settings have no arguments: they were not resolved, and lack what only a descriptor has. -/
def settingsFailure (s : Settings) : Failure :=
  if s.jumphost.isFilled then .value (.noPart Settings.kindName "tunneled_port")
  else
    match bound s.connectTimeout with
    | .error failure => failure
    | .ok _ => .value (.noPart Settings.kindName "client_certificate")

/-! ## The version gate -/

/-- Why a server at a host and a port is refused that is older than expected: for that, unless a
part of the words for it is not written.  They are written from the left. -/
def tooOld (host port : Value) (expected actual : Version.Operand) : Failure :=
  if anyOversized [host, port] then .number .oversized
  else
    match actual.shown, expected.shown with
    | .ok running, .ok wanted => .serverTooOld host port running wanted
    | .error fault, _ | .ok _, .error fault => .ofTextFault fault

/-- The notice about a server that is new enough.  It is written only after the server has passed,
and dropped if it cannot be. -/
def satisfiedNotices (expected actual : Version.Operand) : List Notice :=
  match actual.shown, expected.shown with
  | .ok running, .ok wanted => [.versionSatisfied running wanted]
  | _, _ => []

/-- Lets a server at a host and a port pass that is not older than expected, with a notice. -/
def gate (host port : Value) (expected actual : Version.Operand) :
    Except Failure (List Notice) := do
  let isOlder ← (actual.related .before expected).mapError .comparison
  if isOlder then throw (tooOld host port expected actual)
  else return satisfiedNotices expected actual

/-- Lets a server pass that is not older than a descriptor expects. -/
def checkServer (d : Descriptor) (actual : Version.Operand) : Except Failure (List Notice) :=
  gate d.host d.port d.expectedVersion actual

/-! ## Connections -/

/-- The version that a server reports. -/
structure ServerInfo where
  major : Value
  minor : Value
  micro : Value

/-- The version of a server. -/
def ServerInfo.version (info : ServerInfo) : Version :=
  ⟨info.major, info.minor, info.micro, [], []⟩

/-- How a connection behaves. -/
structure Connection where
  /-- What the connection says when it is asked for the version of the server. -/
  serverInfo : Except Failure ServerInfo
  /-- What comes of closing the connection. -/
  close : Except Failure Unit

/-- What the driver does with given arguments: it opens a connection, or it fails or is
cancelled. -/
abbrev Driver := ConnectArguments → Except Failure Connection

/-- What came of an attempt to connect. -/
structure Attempt where
  /-- The connection that is returned, or the failure that leaves the attempt. -/
  outcome : Except Failure Connection
  notices : List Notice
  /-- The arguments with which the driver was called. -/
  opened : List ConnectArguments
  /-- How often the connection was closed. -/
  closes : Nat

/-- Why an attempt failed; nothing if the connection is returned. -/
def Attempt.failure (attempt : Attempt) : Option Failure :=
  match attempt.outcome with
  | .ok _ => none
  | .error failure => some failure

/-- The failure that leaves an attempt which opens no connection, for a reason that is told with the
target.  A request to cancel leaves it as it is. -/
def openingFailure (d : Descriptor) (reason : Failure) : Failure :=
  if reason.isCancellation then reason
  else if anyOversized [d.host, d.port, d.database] then .number .oversized
  else .connection d.host d.port d.database reason.message

/-- The server's version, checked. -/
def checkVersion (d : Descriptor) (connection : Connection) : Except Failure (List Notice) := do
  let info ← connection.serverInfo
  checkServer d (.version info.version)

/-- The failure that leaves an attempt whose connection is not admitted: the reason, unless closing
the connection fails. -/
def refuse (connection : Connection) (reason : Failure) : Failure :=
  match connection.close with
  | .ok () => reason
  | .error closing => closing

/-- Opens a connection and checks the server. -/
def connect (library : Tls.Library) (driver : Driver) (d : Descriptor) : Attempt :=
  let notices := argumentNotices d
  match arguments library d with
  | .error failure => ⟨.error (openingFailure d failure), notices, [], 0⟩
  | .ok arguments =>
    match driver arguments with
    | .error failure => ⟨.error (openingFailure d failure), notices, [arguments], 0⟩
    | .ok connection =>
      match checkVersion d connection with
      | .ok more => ⟨.ok connection, notices ++ more, [arguments], 0⟩
      | .error reason =>
        -- a request to cancel passes the handler that closes the connection
        if reason.isCancellation then ⟨.error reason, notices, [arguments], 0⟩
        else ⟨.error (refuse connection reason), notices, [arguments], 1⟩

end Client

end PostgresAccess
