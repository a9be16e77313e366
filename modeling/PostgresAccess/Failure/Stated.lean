import PostgresAccess.Failure

/-!
# Failures from named parts

A failure may be stated by its kind and by named parts, which are any values: the attribute, the
value and the reason of a version that is none; the command, the arguments, the output, the exit
code and the reason of a helper that failed; and the words of all others.
-/

namespace PostgresAccess.Failure

/-- The part of a name, or what stands for one that is missing. -/
def partOr (parts : Entries) (name : String) (standard : Value) : Value :=
  (parts.get? name).getD standard

/-- The failure of a version that is none. -/
def invalidVersionOfParts (parts : Entries) : Failure :=
  let name := partOr parts "attribute" (.text "")
  let value := partOr parts "value" .null
  let reason := partOr parts "reason" .null
  .stated .invalidVersion
    (invalidVersionWords name.shown value.literal (if reason.isFilled then reason.shown else ""))
    [("attribute", name), ("value", value)]

/-- The failure of a helper. -/
def helperOfParts (parts : Entries) : Failure :=
  let part (name : String) : Value := partOr parts name (.text "")
  match (partOr parts "args" (.list [])).members with
  | .error fault => .value fault
  | .ok arguments =>
    let words := helperWords (part "command").shown (Value.list arguments).literal
      (part "stdout").shown (part "stderr").shown (part "reason").shown
    .stated .helper words
      [("command", part "command"), ("arguments", .list arguments), ("stdout", part "stdout"),
        ("stderr", part "stderr"), ("returncode", partOr parts "returncode" .null),
        ("reason", part "reason")]

/-- The failure of a kind that some parts state. -/
def ofParts (kind : FailureKind) (parts : Entries) : Failure :=
  match kind with
  | .invalidVersion => invalidVersionOfParts parts
  | .helper => helperOfParts parts
  | kind => .stated kind (partOr parts "message" (.text "")).shown []

end PostgresAccess.Failure
