import PostgresAccess.Assembly
import PostgresAccess.Client
import PostgresAccess.Descriptor.Replacement
import PostgresAccess.Settings.Reading

/-!
# Sessions

A session works with one assembler and keeps settings and descriptors in named slots.  Its helpers
are replaced by a queue of replies, of which the last repeats.
-/

namespace PostgresAccess

/-- The replies that helpers will give, in order; the last one repeats. -/
structure Replies where
  next : Except Failure String
  later : List (Except Failure String)

namespace Replies

/-- The reply of a helper that prints a value: line ends are looked for in a text only. -/
def printed : Value → Except Failure String
  | .text s => .ok s
  | v => .error (.value (.noPart v.kindName "endswith"))

/-- The runner that gives the next reply. -/
def runner (replies : Replies) : Runner := fun _ => ⟨replies.next, []⟩

/-- The replies after one. -/
def advance (replies : Replies) : Replies :=
  match replies.later with
  | [] => replies
  | next :: later => ⟨next, later⟩

/-- The replies after some calls. -/
def after (replies : Replies) (calls : List HelperCall) : Replies :=
  calls.foldl (fun replies _ => replies.advance) replies

end Replies

/-- What a slot holds. -/
inductive Item where
  | settings (s : Settings)
  | descriptor (d : Descriptor)

/-- A session. -/
structure Session where
  assembler : Assembler
  environment : Environment
  replies : Replies
  slots : List (String × Item)

namespace Session

/-- What the slot of a name holds. -/
def find (session : Session) (name : String) : Except Failure Item :=
  match session.slots.find? fun slot => slot.1 == name with
  | some (_, item) => .ok item
  | none => .error (.unknownSlot name)

/-- Puts something into the slot of a name. -/
def put (session : Session) (name : String) (item : Item) : Session :=
  { session with slots := (name, item) :: session.slots }

/-- Keeps a result in a slot, if there is one. -/
def keep {α : Type} (session : Session) (name : String) (item : α → Item)
    (result : Except Failure α) : Except Failure α × Session :=
  match result with
  | .ok a => (.ok a, session.put name (item a))
  | .error failure => (.error failure, session)

/-- Reads settings into a slot. -/
def readSettings (session : Session) (name source : String) (data : Value) :
    Except Failure Settings × Session :=
  session.keep name .settings (Settings.parse session.environment source data)

/-- Puts settings into a slot that are not checked. -/
def buildSettings (session : Session) (name : String) (entries : Entries) :
    Except Failure Settings × Session :=
  session.keep name .settings (Settings.unchecked session.environment entries)

/-- Assembles what a slot holds into a descriptor for another one. -/
def assemble (session : Session) (source name : String) : Except Failure Report × Session :=
  match session.find source with
  | .error failure => (.error failure, session)
  | .ok item =>
    let report := match item with
      | .settings s => PostgresAccess.assemble session.assembler session.replies.runner s
      | .descriptor d => assembleDescriptor session.assembler d
    let session := { session with replies := session.replies.after report.calls }
    (.ok report, (session.keep name .descriptor report.outcome).2)

/-- Whether two slots hold the same. -/
def equal (session : Session) (first second : String) : Except Failure Bool := do
  let a ← session.find first
  let b ← session.find second
  match a, b with
  | .settings s, .settings t => return s == t
  | .descriptor d, .descriptor e => return d.equals e
  | _, _ => return false

/-- Replaces parts of the descriptor of a slot into another one. -/
def replace (session : Session) (source name : String)
    (expected : Except Failure (Option Version.Operand)) (parts : Entries) :
    Except Failure Descriptor × Session :=
  session.keep name .descriptor do
    let item ← session.find source
    let replacement ← Descriptor.Replacement.ofParts expected parts
    match item with
    | .settings _ => throw .notReplaced
    | .descriptor d => d.replace replacement

/-- Why a field of what a slot holds is not set: nothing changes. -/
def assign (session : Session) (name : String) (field : Value) : Failure :=
  match session.find name, field with
  | .error failure, _ => failure
  | .ok (.settings _), .text field => .frozenSettings field
  | .ok (.descriptor _), .text field => Descriptor.settingFailure field
  | .ok _, v => .notFieldName v.kindName

end Session

/-! ## What a slot holds -/

namespace Item

/-- The scheme of what a slot holds. -/
def scheme : Item → Scheme
  | .settings s => s.scheme
  | .descriptor d => d.scheme

/-- The arguments with which the driver would be called. -/
def arguments (library : Tls.Library) : Item → Except Failure ConnectArguments
  | .settings s => .error (Client.settingsFailure s)
  | .descriptor d => Client.arguments library d

/-- Lets a server pass that is not older than expected.  Settings that were not resolved expect the
value of an attribute, which is no version. -/
def checkServer (actual : Version.Operand) : Item → Except Failure (List Notice)
  | .settings s => Client.gate s.host s.port (.value s.expectedVersion) actual
  | .descriptor d => Client.checkServer d actual

end Item

end PostgresAccess
