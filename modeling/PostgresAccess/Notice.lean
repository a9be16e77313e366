import PostgresAccess.Settings

/-!
# Notices

What is reported while a connection is prepared and opened: each notice has a level, the part of the
program that gives it, and its words.
-/

namespace PostgresAccess

/-- How much a notice matters. -/
inductive Level where
  | debug
  | info
  | warning
deriving DecidableEq, Repr

/-- The name of a level. -/
def Level.name : Level → String
  | .debug => "DEBUG"
  | .info => "INFO"
  | .warning => "WARNING"

/-- The part of the program that gives a notice. -/
inductive Origin where
  | assembler
  | client
  | helper
deriving DecidableEq, Repr

/-- The name of a part of the program. -/
def Origin.name : Origin → String
  | .assembler => "pgprovider.assembler"
  | .client => "pgprovider.client"
  | .helper => "pgprovider.command"

/-- The advice to use the newer name of an attribute. -/
def legacySslmodeAdvice : String := "Rename the \x60ssl_mode\x60 attribute to \x60sslmode\x60"

/-- A notice. -/
inductive Notice where
  /-- The older name of an attribute is in use. -/
  | legacySslmode
  /-- The connection enters a tunnel at a local port. -/
  | tunnelled (jumphost host port : Value) (entry : Nat)
  /-- A connection has been prepared. -/
  | assembled (scheme : Scheme) (host port database username : Value)
  /-- The client treats the scheme like the plain one. -/
  | unsupportedScheme (scheme : Scheme)
  /-- The server is new enough; the versions are given by their texts. -/
  | versionSatisfied (actual expected : String)
  /-- A helper is about to run. -/
  | running (command : String) (arguments : Nat)
  /-- The process of a helper that was to stop has exited. -/
  | terminated (process : Nat) (code : Int)

namespace Notice

/-- The level of a notice. -/
def level : Notice → Level
  | .legacySslmode | .unsupportedScheme _ => .warning
  | .assembled .. => .info
  | .tunnelled .. | .versionSatisfied .. | .running .. | .terminated .. => .debug

/-- The part of the program that gives a notice. -/
def origin : Notice → Origin
  | .legacySslmode | .tunnelled .. | .assembled .. => .assembler
  | .unsupportedScheme _ | .versionSatisfied .. => .client
  | .running .. | .terminated .. => .helper

/-- The words of a notice. -/
def message : Notice → String
  | .legacySslmode => legacySslmodeAdvice
  | .tunnelled jumphost host port entry =>
    "Jump host " ++ jumphost.shown ++ " configured; tunneling " ++ host.shown ++ ":" ++ port.shown
      ++ " via local port " ++ toString entry
  | .assembled scheme host port database username =>
    "Assembled " ++ scheme.name ++ " connection to " ++ host.shown ++ ":" ++ port.shown ++ "/"
      ++ database.shown ++ " as " ++ username.shown
  | .unsupportedScheme scheme =>
    "Scheme " ++ scheme.name
      ++ " is not supported by the asyncpg client; connecting as plain postgres"
  | .versionSatisfied actual expected =>
    "Server version " ++ actual ++ " satisfies expected " ++ expected
  | .running command arguments =>
    "Running command " ++ command ++ " with " ++ toString arguments ++ " argument(s)"
  | .terminated process code =>
    "Command process " ++ toString process ++ " terminated with " ++ toString code

/-- A notice on one line. -/
def line (notice : Notice) : String :=
  notice.level.name ++ " " ++ notice.origin.name ++ ": " ++ notice.message

end Notice

end PostgresAccess
