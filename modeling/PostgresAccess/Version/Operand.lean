import PostgresAccess.Version

/-!
# Versions and other values

Where a version belongs, there may be any other value, which is then shown, compared and refused for
what it is.
-/

namespace PostgresAccess.Version

/-- A version or any other value. -/
inductive Operand where
  | version (v : Version)
  | value (v : Value)

namespace Operand

/-- The name of the kind of an operand. -/
def kindName : Operand → String
  | .version _ => "ServerVersion"
  | .value v => v.kindName

/-- The literal of an operand. -/
def literal : Operand → String
  | .version v => v.literal
  | .value v => v.literal

/-- An operand as it stands in a sentence. -/
def shown : Operand → Except TextFault String
  | .version v => v.render
  | .value v => if v.hasOversized then .error .oversized else .ok v.shown

/-- Whether two operands are equal: a version equals no other value. -/
def equals : Operand → Operand → Bool
  | .version a, .version b => Version.equals a b
  | .value a, .value b => Value.equals a b
  | .version _, .value _ | .value _, .version _ => false

/-- Why an operand cannot be looked up in a set. -/
def lookUpFault? : Operand → Option ValueFault
  | .version v => v.lookUpFault?
  | .value v => v.lookUpFault?

/-- The version that an operand is: any other value lacks the parts of one. -/
def version? : Operand → Except ValueFault Version
  | .version v => .ok v
  | .value v => .error (.noPart v.kindName "major")

end Operand

end PostgresAccess.Version
