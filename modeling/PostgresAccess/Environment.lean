/-!
# Environment variables

The eight variables that supply connection attributes.  A variable that is set to the empty text
counts as unset.
-/

namespace PostgresAccess

/-- A variable that supplies an attribute. -/
inductive Variable where
  | host
  | port
  | database
  | user
  | password
  | superuser
  | sslmode
  | connectTimeout
deriving DecidableEq, Repr

namespace Variable

/-- Every variable. -/
def all : List Variable :=
  [host, port, database, user, password, superuser, sslmode, connectTimeout]

/-- The name of a variable. -/
def name : Variable → String
  | .host => "PGHOST"
  | .port => "PGPORT"
  | .database => "PGDATABASE"
  | .user => "PGUSER"
  | .password => "PGPASSWORD"
  | .superuser => "PGSUPERUSER"
  | .sslmode => "PGSSLMODE"
  | .connectTimeout => "PGCONNECT_TIMEOUT"

end Variable

/-- The texts of the variables; the empty text for a variable that is not set. -/
structure Environment where
  text : Variable → String

namespace Environment

/-- No variable is set. -/
def empty : Environment := ⟨fun _ => ""⟩

/-- The text of a variable that is set to more than nothing. -/
def text? (env : Environment) (v : Variable) : Option String :=
  if env.text v = "" then none else some (env.text v)

/-- The environment that sets the named variables and no other. -/
def ofPairs (pairs : List (String × String)) : Environment :=
  ⟨fun v => ((pairs.find? fun pair => pair.1 == v.name).map Prod.snd).getD ""⟩

end Environment

end PostgresAccess
