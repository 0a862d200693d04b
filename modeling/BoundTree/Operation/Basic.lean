import BoundTree.Anchor
import BoundTree.Constant.Basic
import BoundTree.Model
import BoundTree.Operation.Kind
import BoundTree.Operator
import BoundTree.Symbol

/-!
# Operations

An operation is a node of a semantic tree: what a piece of source text means once
names and types are resolved.  Operations are finite trees and never change.

**Every operation has an envelope.**  It says where the operation comes from,
which value it produces, and whether it was written or added by the compiler.  The
nine variants differ in what they hold besides.

**The type allows more than a binder builds.**  It does not tie the envelope of an
operation to those of its parts.  Those ties hold of the operations that the
functions of `BoundTree.Operation.Build` make.

## Main definitions

* `Envelope` — the attributes of every operation
* `OperatorUse` — an operator as it is applied
* `Operation` — an operation
* `Operation.children` — its direct parts, in source order
* `Operation.fold` — recursion over the tree, the one way in which trees are traversed

## Main statements

* `Operation.fold_eq` — a fold in terms of the children
* `Operation.induction_on_children` — induction over the tree
-/

namespace BoundTree

/-- The attributes that an operation of any variant has. -/
@[ext]
structure Envelope where
  /-- The session in which the operation was bound. -/
  model : Model
  /-- The syntax from which the operation was bound. -/
  anchor : Anchor
  /-- The type of the value, if the operation produces one. -/
  type? : Option Ty
  /-- The value, if it is known at compile time. -/
  constant? : Option ConstantValue
  /-- Whether the compiler added the operation. -/
  isImplicit : Bool
  deriving DecidableEq

namespace Envelope

/-- The envelope of an operation that produces no value. -/
def valueless (model : Model) (anchor : Anchor) (isImplicit : Bool) : Envelope :=
  ⟨model, anchor, none, none, isImplicit⟩

end Envelope

/-- A binary operator as it is applied. -/
@[ext]
structure OperatorUse where
  operator : BinaryOperator
  /-- Whether the operator is lifted over nullable operands. -/
  isLifted : Bool
  /-- Whether overflow is checked. -/
  isChecked : Bool
  /-- Whether a user-defined method implements the operator. -/
  usesMethod : Bool
  /-- The method that implements the operator. -/
  method? : Option Method
  deriving DecidableEq

/-- A node of a semantic tree. -/
inductive Operation where
  /-- A declaration of locals, with the initializer that gives them a value. -/
  | variableDeclaration (envelope : Envelope) (locals : DeclaredLocals)
      (initializer : Option Operation)
  /-- The initial value of a declared local. -/
  | localInitializer (envelope : Envelope) (value : Operation)
  /-- One of two values, chosen by a condition. -/
  | conditionalExpression (envelope : Envelope) (condition whenTrue whenFalse : Operation)
  /-- An expression evaluated for its effects. -/
  | expressionStatement (envelope : Envelope) (expression : Operation)
  /-- An assignment of a value to a target. -/
  | simpleAssignmentExpression (envelope : Envelope) (target value : Operation)
  /-- An assignment that combines target and value by an operator. -/
  | compoundAssignmentExpression (envelope : Envelope) (use : OperatorUse)
      (target value : Operation)
  /-- A literal; its value is the constant of the envelope. -/
  | literalExpression (envelope : Envelope)
  /-- An operator between two operands.  Strings may be compared as text, without
  regard to case, or as binary data. -/
  | binaryOperatorExpression (envelope : Envelope) (use : OperatorUse) (isCompareText : Bool)
      (left right : Operation)
  /-- A construct that could not be resolved, with the parts that could. -/
  | invalidExpression (envelope : Envelope) (salvaged : List Operation)

namespace Operation

/-! ### Attributes -/

/-- The variant of an operation. -/
def kind : Operation → OperationKind
  | variableDeclaration .. => .variableDeclaration
  | localInitializer .. => .localInitializer
  | conditionalExpression .. => .conditionalExpression
  | expressionStatement .. => .expressionStatement
  | simpleAssignmentExpression .. => .simpleAssignmentExpression
  | compoundAssignmentExpression .. => .compoundAssignmentExpression
  | literalExpression .. => .literalExpression
  | binaryOperatorExpression .. => .binaryOperatorExpression
  | invalidExpression .. => .invalidExpression

/-- The envelope of an operation. -/
def envelope : Operation → Envelope
  | variableDeclaration e .. => e
  | localInitializer e .. => e
  | conditionalExpression e .. => e
  | expressionStatement e .. => e
  | simpleAssignmentExpression e .. => e
  | compoundAssignmentExpression e .. => e
  | literalExpression e => e
  | binaryOperatorExpression e .. => e
  | invalidExpression e .. => e

/-- The session in which an operation was bound. -/
def model (op : Operation) : Model :=
  op.envelope.model

/-- The syntax from which an operation was bound. -/
def anchor (op : Operation) : Anchor :=
  op.envelope.anchor

/-- The type of the value that an operation produces, if any. -/
def type? (op : Operation) : Option Ty :=
  op.envelope.type?

/-- The value of an operation, if it is known at compile time. -/
def constant? (op : Operation) : Option ConstantValue :=
  op.envelope.constant?

/-- Whether the compiler added an operation. -/
def isImplicit (op : Operation) : Bool :=
  op.envelope.isImplicit

/-- The direct parts of an operation, in source order. -/
def children : Operation → List Operation
  | variableDeclaration _ _ initializer => initializer.toList
  | localInitializer _ value => [value]
  | conditionalExpression _ condition whenTrue whenFalse => [condition, whenTrue, whenFalse]
  | expressionStatement _ expression => [expression]
  | simpleAssignmentExpression _ target value => [target, value]
  | compoundAssignmentExpression _ _ target value => [target, value]
  | literalExpression _ => []
  | binaryOperatorExpression _ _ _ left right => [left, right]
  | invalidExpression _ salvaged => salvaged

/-- The operation that a path of child positions leads to. -/
def at? (op : Operation) : List Nat → Option Operation
  | [] => some op
  | position :: path => op.children[position]?.bind (·.at? path)

/-! ### Recursion and induction over the tree -/

variable {α : Type}

mutual

/-- The result of combining each operation of a tree with the results of its
children, from the leaves upwards. -/
def fold (combine : Operation → List α → α) : Operation → α
  | variableDeclaration e locals none => combine (variableDeclaration e locals none) []
  | variableDeclaration e locals (some initializer) =>
    combine (variableDeclaration e locals (some initializer)) [initializer.fold combine]
  | localInitializer e value => combine (localInitializer e value) [value.fold combine]
  | conditionalExpression e condition whenTrue whenFalse =>
    combine (conditionalExpression e condition whenTrue whenFalse)
      [condition.fold combine, whenTrue.fold combine, whenFalse.fold combine]
  | expressionStatement e expression =>
    combine (expressionStatement e expression) [expression.fold combine]
  | simpleAssignmentExpression e target value =>
    combine (simpleAssignmentExpression e target value)
      [target.fold combine, value.fold combine]
  | compoundAssignmentExpression e use target value =>
    combine (compoundAssignmentExpression e use target value)
      [target.fold combine, value.fold combine]
  | literalExpression e => combine (literalExpression e) []
  | binaryOperatorExpression e use isCompareText left right =>
    combine (binaryOperatorExpression e use isCompareText left right)
      [left.fold combine, right.fold combine]
  | invalidExpression e salvaged =>
    combine (invalidExpression e salvaged) (foldAll combine salvaged)

/-- The results of folding each operation of a list. -/
def foldAll (combine : Operation → List α → α) : List Operation → List α
  | [] => []
  | op :: ops => op.fold combine :: foldAll combine ops

end

theorem foldAll_eq_map (combine : Operation → List α → α) (ops : List Operation) :
    foldAll combine ops = ops.map (fold combine) := by
  induction ops with
  | nil => rfl
  | cons op ops inductionHypothesis => rw [foldAll, inductionHypothesis, List.map_cons]

/-- A fold combines an operation with the folds of its children. -/
theorem fold_eq (combine : Operation → List α → α) (op : Operation) :
    op.fold combine = combine op (op.children.map (fold combine)) := by
  match op with
  | variableDeclaration _ _ none | variableDeclaration _ _ (some _) | localInitializer ..
  | conditionalExpression .. | expressionStatement .. | simpleAssignmentExpression ..
  | compoundAssignmentExpression .. | literalExpression _ | binaryOperatorExpression .. =>
    simp [fold, children]
  | invalidExpression .. => simp [fold, children, foldAll_eq_map]

/-- Children are smaller than their operation, so recursion over the tree ends. -/
theorem sizeOf_lt_of_mem_children {child op : Operation} (h : child ∈ op.children) :
    sizeOf child < sizeOf op := by
  match op with
  | variableDeclaration _ _ none => simp [children] at h
  | variableDeclaration _ _ (some _) =>
    simp only [children, Option.toList_some, List.mem_singleton] at h
    subst h
    simp
    omega
  | localInitializer .. | conditionalExpression .. | expressionStatement ..
  | simpleAssignmentExpression .. | compoundAssignmentExpression ..
  | binaryOperatorExpression .. =>
    simp only [children, List.mem_cons, List.not_mem_nil, or_false] at h
    rcases h with rfl | rfl | rfl <;> simp <;> omega
  | literalExpression _ => simp [children] at h
  | invalidExpression _ salvaged =>
    have := List.sizeOf_lt_of_mem h
    simp only [children] at this
    simp
    omega

/-- **Induction over the tree.**  A property that passes from the children of every
operation to the operation itself holds of all operations. -/
theorem induction_on_children {motive : Operation → Prop}
    (step : ∀ op, (∀ child ∈ op.children, motive child) → motive op) (op : Operation) :
    motive op :=
  step op fun child _ => induction_on_children step child
termination_by sizeOf op
decreasing_by exact sizeOf_lt_of_mem_children ‹_›

/-! ### Size -/

/-- The total of a list of sizes. -/
def total : List Nat → Nat
  | [] => 0
  | size :: sizes => size + total sizes

theorem total_append (sizes sizes' : List Nat) :
    total (sizes ++ sizes') = total sizes + total sizes' := by
  induction sizes with
  | nil => simp [total]
  | cons size sizes inductionHypothesis => simp [total, inductionHypothesis, Nat.add_assoc]

/-- The number of operations of a tree, its root included. -/
def size : Operation → Nat :=
  fold fun _ sizes => total sizes + 1

/-- The size of a tree is that of its children and one more. -/
theorem size_eq (op : Operation) : op.size = total (op.children.map size) + 1 :=
  fold_eq _ op

end Operation

end BoundTree
