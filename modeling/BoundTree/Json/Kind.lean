import BoundTree.Json.Record
import BoundTree.Json.Writer
import BoundTree.Operation.Kind
import BoundTree.Operator

/-!
# Kinds as JSON

Operators and operation kinds are choices without content, written as their names.

## Main definitions

* `BinaryOperator.json`, `BinaryOperator.read?`
* `OperationKind.json`, `OperationKind.read?`
-/

namespace BoundTree

/-- The operator as compact JSON. -/
def BinaryOperator.json (operator : BinaryOperator) : List Char :=
  JsonText.string operator.name.toList

/-- The operator that a JSON text denotes. -/
def BinaryOperator.read? (text : String) : Option BinaryOperator := do
  let json ← Json.read? text.toList
  BinaryOperator.named? (← json.unit?)

/-- The operation kind as compact JSON. -/
def OperationKind.json (kind : OperationKind) : List Char :=
  JsonText.string kind.name.toList

/-- The operation kind that a JSON text denotes. -/
def OperationKind.read? (text : String) : Option OperationKind := do
  let json ← Json.read? text.toList
  OperationKind.named? (← json.unit?)

end BoundTree
