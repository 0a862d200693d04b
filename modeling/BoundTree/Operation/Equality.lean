import BoundTree.Operation.Basic

/-!
# Equality of operations

Two operations are equal when their trees have the same variants in the same
places and agree at every operation in all that it holds.  Models are compared by
identity, anchors with the whole chain above them, and floating-point constants by
bit pattern.

## Main definitions

* `Operation.same` — the test

## Main statements

* `Operation.same_iff` — the test decides equality
-/

namespace BoundTree

namespace Operation

mutual

/-- Whether two operations agree everywhere. -/
def same : Operation → Operation → Bool
  | variableDeclaration e locals initializer, variableDeclaration e' locals' initializer' =>
    e == e' && locals == locals' && sameOption initializer initializer'
  | localInitializer e value, localInitializer e' value' =>
    e == e' && same value value'
  | conditionalExpression e condition whenTrue whenFalse,
      conditionalExpression e' condition' whenTrue' whenFalse' =>
    e == e' && same condition condition' && same whenTrue whenTrue' &&
      same whenFalse whenFalse'
  | expressionStatement e expression, expressionStatement e' expression' =>
    e == e' && same expression expression'
  | simpleAssignmentExpression e target value, simpleAssignmentExpression e' target' value' =>
    e == e' && same target target' && same value value'
  | compoundAssignmentExpression e use target value,
      compoundAssignmentExpression e' use' target' value' =>
    e == e' && use == use' && same target target' && same value value'
  | literalExpression e, literalExpression e' =>
    e == e'
  | binaryOperatorExpression e use isCompareText left right,
      binaryOperatorExpression e' use' isCompareText' left' right' =>
    e == e' && use == use' && isCompareText == isCompareText' && same left left' &&
      same right right'
  | invalidExpression e salvaged, invalidExpression e' salvaged' =>
    e == e' && sameAll salvaged salvaged'
  | _, _ => false

/-- Whether two optional operations agree: both are absent, or both are there and agree. -/
def sameOption : Option Operation → Option Operation → Bool
  | none, none => true
  | some op, some op' => same op op'
  | _, _ => false

/-- Whether two lists of operations agree place by place. -/
def sameAll : List Operation → List Operation → Bool
  | [], [] => true
  | op :: ops, op' :: ops' => same op op' && sameAll ops ops'
  | _, _ => false

end

mutual

/-- **The test for equality decides equality.** -/
theorem same_iff (a b : Operation) : same a b ↔ a = b := by
  cases a <;> cases b <;> simp [same, and_assoc]
  case variableDeclaration.variableDeclaration e locals initializer e' locals' initializer' =>
    simp [sameOption_iff initializer initializer']
  case localInitializer.localInitializer e value e' value' =>
    simp [same_iff value value']
  case conditionalExpression.conditionalExpression e c t f e' c' t' f' =>
    simp [same_iff c c', same_iff t t', same_iff f f']
  case expressionStatement.expressionStatement e expression e' expression' =>
    simp [same_iff expression expression']
  case simpleAssignmentExpression.simpleAssignmentExpression e t v e' t' v' =>
    simp [same_iff t t', same_iff v v']
  case compoundAssignmentExpression.compoundAssignmentExpression e u t v e' u' t' v' =>
    simp [same_iff t t', same_iff v v']
  case binaryOperatorExpression.binaryOperatorExpression e u x l r e' u' x' l' r' =>
    simp [same_iff l l', same_iff r r']
  case invalidExpression.invalidExpression e salvaged e' salvaged' =>
    simp [sameAll_iff salvaged salvaged']

theorem sameOption_iff (a b : Option Operation) : sameOption a b ↔ a = b := by
  cases a <;> cases b <;> simp [sameOption]
  case some.some op op' => exact same_iff op op'

theorem sameAll_iff (as bs : List Operation) : sameAll as bs ↔ as = bs := by
  cases as <;> cases bs <;> simp [sameAll]
  case cons.cons a as b bs => simp [same_iff a b, sameAll_iff as bs]

end

instance : DecidableEq Operation :=
  fun a b => decidable_of_iff _ (same_iff a b)

end Operation

end BoundTree
