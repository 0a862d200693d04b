/-!
# Operation kinds

The tag that names the variant of an operation.

## Main definitions

* `OperationKind` — the nine tags
* `OperationKind.name`, `OperationKind.named?` — their names and the way back
-/

namespace BoundTree

/-- The variant of an operation. -/
inductive OperationKind where
  | variableDeclaration
  | localInitializer
  | conditionalExpression
  | expressionStatement
  | simpleAssignmentExpression
  | compoundAssignmentExpression
  | literalExpression
  | binaryOperatorExpression
  | invalidExpression
  deriving DecidableEq

namespace OperationKind

/-- All variants. -/
def all : List OperationKind :=
  [variableDeclaration, localInitializer, conditionalExpression, expressionStatement,
    simpleAssignmentExpression, compoundAssignmentExpression, literalExpression,
    binaryOperatorExpression, invalidExpression]

/-- The name under which a variant is written in dumps and stored forms. -/
def name : OperationKind → String
  | variableDeclaration => "VariableDeclaration"
  | localInitializer => "LocalInitializer"
  | conditionalExpression => "ConditionalExpression"
  | expressionStatement => "ExpressionStatement"
  | simpleAssignmentExpression => "SimpleAssignmentExpression"
  | compoundAssignmentExpression => "CompoundAssignmentExpression"
  | literalExpression => "LiteralExpression"
  | binaryOperatorExpression => "BinaryOperatorExpression"
  | invalidExpression => "InvalidExpression"

/-- The variant with a given name. -/
def named? (name : String) : Option OperationKind :=
  all.find? fun kind => kind.name == name

/-- No variant is missing on the list. -/
theorem mem_all (kind : OperationKind) : kind ∈ all := by
  cases kind <;> decide

theorem named?_name (kind : OperationKind) : named? kind.name = some kind := by
  cases kind <;> decide

end OperationKind

end BoundTree
