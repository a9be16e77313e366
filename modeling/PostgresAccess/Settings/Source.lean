import PostgresAccess.Settings.Reading
import PostgresAccess.Toml.Document

/-!
# Settings from a file

The attributes stand in a TOML file: in its section `provider` if it has one, and at its top
otherwise.  A file that does not exist counts as one without attributes.
-/

namespace PostgresAccess.Settings

/-- The name of the section of the attributes. -/
def sectionName : String := "provider"

/-- The attributes of a document. -/
def attributes (path : String) (document : Entries) : Except Failure Value :=
  match document.get? sectionName with
  | none => .ok (.table document)
  | some (.table entries) => .ok (.table entries)
  | some _ => .error (.configuration (.sectionNotTable path))

/-- The failure that a complaint about a file leads to: a number of too many digits is a failure of
its own kind. -/
def complaintFailure (path : String) (complaint : Toml.Complaint) : Failure :=
  match complaint.problem with
  | .number fault => .number fault
  | _ => .configuration (.malformed path complaint)

/-- The attributes of the bytes of a file. -/
def attributesOfBytes (path : String) (bytes : List UInt8) : Except Failure Value := do
  let text ← (Text.Utf8.decode bytes).mapError .undecodable
  let document ← (Toml.read text).mapError (complaintFailure path)
  attributes path document

/-- The attributes of a file. -/
def attributesOfFile (readFile : FileReader) (path : String) : Except Failure Value :=
  if path.toList.contains '\x00' then .error .embeddedNull
  else
    match readFile path with
    | .ok bytes => attributesOfBytes path bytes
    | .error .noSuchFile => .ok (.table [])
    | .error fault => .error (.configuration (.unopened path fault))

/-- The settings of a file and of the environment. -/
def load (env : Environment) (readFile : FileReader) (path : String) : Except Failure Settings := do
  let path := Path.normalise path
  let data ← attributesOfFile readFile path
  parse env path data

end PostgresAccess.Settings
