import PostgresAccess.Version.Operand
import PostgresAccess.Version.Order

/-!
# Comparing a version with anything

A version is comparable with a version, and other values with each other as far as their kinds have
an order.  Asking for the order of a version and another value is a fault that names the two kinds.
-/

namespace PostgresAccess.Version

/-- Whether a relation holds between two operands. -/
def Operand.related (relation : Relation) : Operand → Operand → Except ComparisonFault Bool
  | .version a, .version b => Version.related relation a b
  | .value u, .value v => (Value.related relation u v).mapError .value
  | left, right => .error (.value (.unordered relation left.kindName right.kindName))

end PostgresAccess.Version
