import PostgresAccess.Value
import PostgresAccess.Numeral.Integer
import PostgresAccess.Numeral.Shortest

/-!
# Values in messages

A message shows a value by its literal: text quoted, numbers in full, lists and tables with their
members, dates and times by their fields.  A number of too many digits has no literal, which
`Value.hasOversized` finds out beforehand.
-/

namespace PostgresAccess

open Text (quoted)

/-- Items with commas between them. -/
def commaSeparated (items : List String) : String := ", ".intercalate items

/-- The literal of a list of texts. -/
def textListLiteral (texts : List String) : String :=
  "[" ++ commaSeparated (texts.map quoted) ++ "]"

/-- The literal of a sequence of fixed length, given the literals of its members: one member alone
keeps a comma. -/
def tupleLiteral : List String → String
  | [only] => "(" ++ only ++ ",)"
  | members => "(" ++ commaSeparated members ++ ")"

/-- The literal of a sequence of texts of fixed length. -/
def textTupleLiteral (texts : List String) : String := tupleLiteral (texts.map quoted)

/-- The fields of a time that its literal shows: the seconds only if they or a part of them are not
zero. -/
def TimeOfDay.fields (t : TimeOfDay) : List Nat :=
  if t.microsecond ≠ 0 then [t.hour, t.minute, t.second, t.microsecond]
  else if t.second ≠ 0 then [t.hour, t.minute, t.second]
  else [t.hour, t.minute]

/-- The literal of a date. -/
def Date.literal (d : Date) : String :=
  "datetime.date(" ++ commaSeparated ([d.year, d.month, d.day].map toString) ++ ")"

/-- The literal of a time of day. -/
def TimeOfDay.literal (t : TimeOfDay) : String :=
  "datetime.time(" ++ commaSeparated (t.fields.map toString) ++ ")"

/-- The literal of an offset in minutes: whole days, rounded down, and the seconds that remain. -/
def offsetLiteral (minutes : Int) : String :=
  if minutes = 0 then "datetime.timezone.utc"
  else
    let days := if minutes < 0 then "days=-1, " else ""
    let seconds := (minutes % 1440) * 60
    "datetime.timezone(datetime.timedelta(" ++ days ++ "seconds=" ++ toString seconds ++ "))"

/-- The literal of a time on a day. -/
def DateTime.literal (t : DateTime) : String :=
  let fields := [t.date.year, t.date.month, t.date.day] ++ t.time.fields
  let zone := match t.offset with
    | none => []
    | some minutes => ["tzinfo=" ++ offsetLiteral minutes]
  "datetime.datetime(" ++ commaSeparated (fields.map toString ++ zone) ++ ")"

/-- The literal of a truth value. -/
def boolLiteral (b : Bool) : String := if b then "True" else "False"

mutual

/-- The literal of a value. -/
def Value.literal : Value → String
  | .null => "None"
  | .bool b => boolLiteral b
  | .int n => toString n
  | .real x => x.text
  | .text s => quoted s
  | .list values => "[" ++ commaSeparated (literals values) ++ "]"
  | .table entries => "\x7b" ++ commaSeparated (entryLiterals entries) ++ "\x7d"
  | .date d => d.literal
  | .time t => t.literal
  | .dateTime t => t.literal

/-- The literals of some values. -/
def literals : List Value → List String
  | [] => []
  | v :: rest => v.literal :: literals rest

/-- The literals of some entries of a table. -/
def entryLiterals : List (String × Value) → List String
  | [] => []
  | (key, v) :: rest => (quoted key ++ ": " ++ v.literal) :: entryLiterals rest

end

/-- A value as it stands in a sentence: a text by itself, and any other value by its literal. -/
def Value.shown : Value → String
  | .text s => s
  | v => v.literal

mutual

/-- Whether a value holds a number of too many digits to be written. -/
def Value.hasOversized : Value → Bool
  | .int n => Numeral.isOversized n
  | .list values => anyOversized values
  | .table entries => anyEntryOversized entries
  | .null | .bool _ | .real _ | .text _ | .date _ | .time _ | .dateTime _ => false

/-- Whether one of some values holds a number of too many digits. -/
def anyOversized : List Value → Bool
  | [] => false
  | v :: rest => v.hasOversized || anyOversized rest

/-- Whether one of some entries holds a number of too many digits. -/
def anyEntryOversized : List (String × Value) → Bool
  | [] => false
  | (_, v) :: rest => v.hasOversized || anyEntryOversized rest

end

end PostgresAccess
