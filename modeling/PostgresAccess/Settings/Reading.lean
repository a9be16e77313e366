import PostgresAccess.Failure
import PostgresAccess.Settings.Rule

/-!
# Settings from a document and the environment

`read` gives the settings of a table.  Each field is read on its own: from the value under its key,
and if there is none, from its environment variable or the standard value.  A variable that does not
convert to the kind of its field is reported alone; otherwise all broken rules are reported, in the
order of the schema, and after them the keys that no field has.
-/

namespace PostgresAccess

/-- The scheme that a value names. -/
def Scheme.ofValue (v : Value) : Except Failure Scheme :=
  match v.text?.bind Scheme.ofName? with
  | some scheme => .ok scheme
  | none => .error (.unknownScheme v)

/-- Every field is in the list of all fields. -/
theorem Field.mem_all (f : Field) : f ∈ Field.all := by cases f <;> decide

namespace Settings

/-- Why a document gives no settings. -/
inductive Rejection where
  /-- The text of a variable does not convert. -/
  | unconverted (fault : ConversionFault)
  /-- Values break rules. -/
  | rejected (faults : List Fault)

/-- The value of a field: the one of the document if it has one. -/
def given (env : Environment) (entries : Entries) (f : Field) : Except ConversionFault Value :=
  match entries.get? f.name with
  | some v => .ok v
  | none => fallback env f

/-- The fault of a value that is not given. -/
def conversionFault? : Except ConversionFault Value → Option ConversionFault
  | .ok _ => none
  | .error fault => some fault

/-- The content of a field. -/
def contentOf (env : Environment) (entries : Entries) (f : Field) :
    Except (List Fault) f.Content :=
  match given env entries f with
  | .ok v => check f v
  | .error _ => .error []

/-- The faults of a reading. -/
def faultsOf {α : Type} : Except (List Fault) α → List Fault
  | .ok _ => []
  | .error faults => faults

/-- Whether a reading succeeds. -/
def succeeds {α : Type} : Except (List Fault) α → Bool
  | .ok _ => true
  | .error _ => false

/-- The result of a reading that succeeds. -/
def resultOf {α : Type} : (reading : Except (List Fault) α) → succeeds reading = true → α
  | .ok a, _ => a

/-- The entries that no field has. -/
def unknownFaults (entries : Entries) : List Fault :=
  (entries.filter fun entry => (Field.ofName? entry.1).isNone).map fun (key, v) =>
    ⟨[key], .noSuchField, v⟩

/-- The settings of readings that all succeed, or the faults of those that fail and some more. -/
def gather (reading : (f : Field) → Except (List Fault) f.Content) (more : List Fault) :
    Except (List Fault) Settings :=
  if all : ∀ f ∈ Field.all, succeeds (reading f) = true then
    if more.isEmpty then .ok (ofFields fun f => resultOf (reading f) (all f f.mem_all))
    else .error more
  else .error ((Field.all.flatMap fun f => faultsOf (reading f)) ++ more)

/-- The settings of a table. -/
def readEntries (env : Environment) (entries : Entries) : Except Rejection Settings :=
  match Field.all.findSome? fun f => conversionFault? (given env entries f) with
  | some fault => .error (.unconverted fault)
  | none => (gather (contentOf env entries) (unknownFaults entries)).mapError .rejected

/-- The settings of a document. -/
def read (env : Environment) : Value → Except Rejection Settings
  | .table entries => readEntries env entries
  | v => .error (.rejected [⟨[], .table kindName, v⟩])

/-- The settings of a document that comes from a named source. -/
def parse (env : Environment) (source : String) (data : Value) : Except Failure Settings :=
  match read env data with
  | .ok settings => .ok settings
  | .error (.unconverted fault) => .error (.configuration (.unconverted source fault))
  | .error (.rejected faults) =>
    if faults.any fun fault => fault.shown.hasOversized then .error (.number .oversized)
    else .error (.configuration (.rejected source faults))

/-! ## Settings without checks -/

/-- The settings that the environment alone gives. -/
def standardSettings (env : Environment) : Except Failure Settings :=
  match readEntries env [] with
  | .ok settings => .ok settings
  | .error (.unconverted fault) => .error (.conversion fault)
  | .error (.rejected faults) => .error (.rejectedDefaults faults)

/-- The block of a certificate whose paths are not checked; any other value stays as it is. -/
def uncheckedBlock : Value → Value
  | .table entries =>
    .table (["cert", "key"].filterMap fun name => (Entries.get? entries name).map (name, ·))
  | v => v

/-- The content of a field that a value gives without being checked: any value but that of the
scheme. -/
def uncheckedContent (v : Value) : (f : Field) → Except Failure f.Content
  | .scheme => Scheme.ofValue v
  | .clientCertificate => .ok (uncheckedBlock v)
  | .host | .port | .database | .username | .password | .passwordCommand | .databaseUsername
  | .superuser | .sslmode | .legacySslmode | .rootCertificate | .connectTimeout | .maxConnections
  | .expectedVersion | .jumphost => .ok v

/-- The settings with some entries that are not checked; keys that no field has are passed over. -/
def override (s : Settings) : Entries → Except Failure Settings
  | [] => .ok s
  | (key, v) :: rest =>
    match Field.ofName? key with
    | none => s.override rest
    | some f => do
      let content ← uncheckedContent v f
      (s.set f content).override rest

/-- The settings of the environment with some entries that are not checked. -/
def unchecked (env : Environment) (entries : Entries) : Except Failure Settings := do
  let s ← standardSettings env
  s.override entries

end Settings

end PostgresAccess
