import BoundTree.Operation.Basic

/-!
# Building operations

Each function takes facts that a binder has resolved and gives the finished
operation.  None of them fails.  What follows from the parts is derived here and
cannot be given separately:

* an initializer has the type, the constant and the implicit flag of its value;
* an assignment has the type of its target, and the statement around it no value;
* an operator uses a method exactly when a method is given;
* only literals are given a constant, so nothing is folded.

**Where an initializer is anchored.**  When the syntax above the initial value has
the expected shape, the initializer is anchored there; otherwise it shares the
anchor of its value.

## Main definitions

* `Operation.declare` — a variable declaration
* `Operation.conditional`, `Operation.binary` — expressions
* `Operation.assign`, `Operation.assignWith` — assignment statements
* `Operation.literal`, `Operation.literalInt64` — literals
* `Operation.invalid`, `Operation.invalidEmpty` — constructs that could not be resolved
-/

namespace BoundTree

namespace Operation

/-! ### Declarations -/

/-- The anchor of the initializer of a value: the parent of the value's anchor if it
has the expected shape, else the value's anchor itself. -/
def initializerAnchor (shape : Shape) (value : Anchor) : Anchor :=
  match value.parent? with
  | some parent => if shape parent then parent else value
  | none => value

/-- The initializer of a value. -/
def initializerOf (shape : Shape) (model : Model) (value : Operation) : Operation :=
  localInitializer
    { model
      anchor := initializerAnchor shape value.anchor
      type? := value.type?
      constant? := value.constant?
      isImplicit := value.isImplicit }
    value

/-- A declaration of locals with an optional initial value, whose syntax is expected
in a clause of a given shape.  Declarations are always written by the user. -/
def declare (shape : Shape) (locals : DeclaredLocals) (initial : Option Operation)
    (model : Model) (anchor : Anchor) : Operation :=
  variableDeclaration (.valueless model anchor false) locals
    (initial.map (initializerOf shape model))

/-! ### Expressions -/

/-- A choice between two values. -/
def conditional (condition whenTrue whenFalse : Operation) (type? : Option Ty)
    (model : Model) (anchor : Anchor) (isImplicit : Bool) : Operation :=
  conditionalExpression ⟨model, anchor, type?, none, isImplicit⟩ condition whenTrue whenFalse

/-- A built-in operator between two operands. -/
def binary (operator : BinaryOperator) (left right : Operation) (type? : Option Ty)
    (model : Model) (anchor : Anchor) (isLifted isChecked isCompareText isImplicit : Bool) :
    Operation :=
  binaryOperatorExpression ⟨model, anchor, type?, none, isImplicit⟩
    ⟨operator, isLifted, isChecked, false, none⟩ isCompareText left right

/-- A literal of a constant, which keeps its representation. -/
def literal (value : ConstantValue) (type? : Option Ty) (model : Model) (anchor : Anchor)
    (isImplicit : Bool) : Operation :=
  literalExpression ⟨model, anchor, type?, some value, isImplicit⟩

/-- A literal of an integer, whose constant has 64 signed bits. -/
def literalInt64 (value : Int64) (type? : Option Ty) (model : Model) (anchor : Anchor)
    (isImplicit : Bool) : Operation :=
  literal (.ofInt64 value) type? model anchor isImplicit

/-! ### Assignments -/

/-- The envelope of an assignment expression: it produces a value of the target's type. -/
def assignmentEnvelope (target : Operation) (model : Model) (anchor : Anchor)
    (isImplicit : Bool) : Envelope :=
  ⟨model, anchor, target.type?, none, isImplicit⟩

/-- An expression as a statement, which has no value. -/
def statementOf (expression : Operation) (model : Model) (anchor : Anchor)
    (isImplicit : Bool) : Operation :=
  expressionStatement (.valueless model anchor isImplicit) expression

/-- The statement that assigns a value to a target. -/
def assign (target value : Operation) (model : Model) (anchor : Anchor)
    (isImplicit : Bool) : Operation :=
  statementOf
    (simpleAssignmentExpression (assignmentEnvelope target model anchor isImplicit) target value)
    model anchor isImplicit

/-- The statement that combines target and value by an operator and assigns the
result to the target. -/
def assignWith (target value : Operation) (operator : BinaryOperator)
    (isLifted isChecked : Bool) (method? : Option Method) (model : Model) (anchor : Anchor)
    (isImplicit : Bool) : Operation :=
  statementOf
    (compoundAssignmentExpression (assignmentEnvelope target model anchor isImplicit)
      ⟨operator, isLifted, isChecked, method?.isSome, method?⟩ target value)
    model anchor isImplicit

/-! ### Invalid constructs -/

/-- A construct that could not be resolved, around the parts that could, in source order. -/
def invalid (model : Model) (anchor : Anchor) (salvaged : List Operation)
    (isImplicit : Bool) : Operation :=
  invalidExpression (.valueless model anchor isImplicit) salvaged

/-- A construct that could not be resolved and left no part to keep. -/
def invalidEmpty (model : Model) (anchor : Anchor) (isImplicit : Bool) : Operation :=
  invalid model anchor [] isImplicit

end Operation

end BoundTree
