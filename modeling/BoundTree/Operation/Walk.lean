import BoundTree.Operation.Basic

/-!
# Traversal in pre-order

The operations below an operation, each before its own children and the children
in source order.

**Two traversals of one order.**  `Operation.preorder` is the recursion over the
tree, variant by variant.  `Walk` is the same order produced one operation at a time,
by a stack of operations that still have to be visited.  A step takes the operation
from the end of the stack and puts its children there, the last child first.

## Main definitions

* `Operation.preorder` — an operation and all operations below it
* `Walk` — a traversal under way; `Walk.next` is its step
* `Walk.requests` — what a number of steps return
* `Walk.pending` — the number of operations still to come
* `Operation.descendants` — all operations below an operation

## Main statements

* `Operation.preorder_eq` — the pre-order in terms of the children
* `Walk.next_of_topDown_cons` — a step puts the children in the place of their parent
-/

namespace BoundTree

namespace Operation

mutual

/-- An operation followed by all operations below it, in pre-order. -/
def preorder : Operation → List Operation
  | variableDeclaration e locals initializer =>
    variableDeclaration e locals initializer :: preorderOption initializer
  | localInitializer e value => localInitializer e value :: value.preorder
  | conditionalExpression e condition whenTrue whenFalse =>
    conditionalExpression e condition whenTrue whenFalse ::
      (condition.preorder ++ whenTrue.preorder ++ whenFalse.preorder)
  | expressionStatement e expression =>
    expressionStatement e expression :: expression.preorder
  | simpleAssignmentExpression e target value =>
    simpleAssignmentExpression e target value :: (target.preorder ++ value.preorder)
  | compoundAssignmentExpression e use target value =>
    compoundAssignmentExpression e use target value :: (target.preorder ++ value.preorder)
  | literalExpression e => [literalExpression e]
  | binaryOperatorExpression e use isCompareText left right =>
    binaryOperatorExpression e use isCompareText left right ::
      (left.preorder ++ right.preorder)
  | invalidExpression e salvaged => invalidExpression e salvaged :: preorderAll salvaged

/-- The pre-order of an optional operation, which is empty without one. -/
def preorderOption : Option Operation → List Operation
  | none => []
  | some op => op.preorder

/-- The pre-orders of a list of operations, one after the other. -/
def preorderAll : List Operation → List Operation
  | [] => []
  | op :: ops => op.preorder ++ preorderAll ops

end

theorem preorderAll_eq_flatMap (ops : List Operation) :
    preorderAll ops = ops.flatMap preorder := by
  induction ops with
  | nil => rfl
  | cons op ops inductionHypothesis =>
    rw [preorderAll, inductionHypothesis, List.flatMap_cons]

/-- The children are the operations that the payload holds, each once and in order. -/
theorem preorder_eq (op : Operation) :
    op.preorder = op :: op.children.flatMap preorder := by
  match op with
  | variableDeclaration _ _ none | variableDeclaration _ _ (some _) =>
    simp [preorder, preorderOption, children]
  | localInitializer .. | conditionalExpression .. | expressionStatement ..
  | simpleAssignmentExpression .. | compoundAssignmentExpression .. | literalExpression _
  | binaryOperatorExpression .. =>
    simp [preorder, children]
  | invalidExpression .. =>
    rw [preorder, preorderAll_eq_flatMap, children]

end Operation

/-- A traversal under way. -/
structure Walk where
  /-- The operations whose trees are still to be visited, the next one last. -/
  stack : Array Operation

namespace Walk

/-- The traversal of everything below an operation. -/
def below (op : Operation) : Walk :=
  ⟨op.children.reverse.toArray⟩

/-- A request for the next operation: what it returns, and the traversal after it.  A
traversal that has ended returns nothing and stays as it is. -/
def next (walk : Walk) : Option Operation × Walk :=
  match walk.stack.back? with
  | none => (none, walk)
  | some op => (some op, ⟨walk.stack.pop ++ op.children.reverse⟩)

/-- What a number of requests return, in order, and the traversal after them. -/
def requests : Nat → Walk → List (Option Operation) × Walk
  | 0, walk => ([], walk)
  | count + 1, walk =>
    let later := requests count walk.next.2
    (walk.next.1 :: later.1, later.2)

/-- The operations on the stack, the next one to be visited first. -/
def topDown (walk : Walk) : List Operation :=
  walk.stack.toList.reverse

@[simp]
theorem topDown_below (op : Operation) : (below op).topDown = op.children := by
  simp [below, topDown]

/-- A traversal that has ended stays so. -/
theorem next_of_topDown_nil {walk : Walk} (ended : walk.topDown = []) :
    walk.next = (none, walk) := by
  have empty : walk.stack = #[] := by simpa [topDown] using ended
  simp [next, empty]

/-- A step returns the top operation and leaves its children in its place. -/
theorem next_of_topDown_cons {walk : Walk} {op : Operation} {rest : List Operation}
    (top : walk.topDown = op :: rest) :
    walk.next.1 = some op ∧ walk.next.2.topDown = op.children ++ rest := by
  have stacked : walk.stack = rest.reverse.toArray.push op := by
    apply Array.toList_inj.1
    rw [← List.reverse_reverse walk.stack.toList, ← topDown, top]
    simp
  simp [next, stacked, topDown]

/-- The number of operations still to come. -/
def pending (walk : Walk) : Nat :=
  Operation.total (walk.topDown.map Operation.size)

/-- A step leaves one operation less to come. -/
theorem pending_of_next {walk rest : Walk} {op : Operation}
    (h : walk.next = (some op, rest)) : walk.pending = rest.pending + 1 := by
  cases top : walk.topDown with
  | nil => simp [next_of_topDown_nil top] at h
  | cons first others =>
    have step := next_of_topDown_cons top
    rw [h] at step
    obtain ⟨returned, left⟩ := step
    rw [pending, pending, top, left, List.map_cons, List.map_append, Operation.total,
      Operation.total_append, Operation.size_eq first]
    omega

/-- All operations still to come: what the traversal returns until it returns nothing. -/
def toList (walk : Walk) : List Operation :=
  match _step : walk.next with
  | (none, _) => []
  | (some op, rest) => op :: rest.toList
termination_by walk.pending
decreasing_by exact Nat.lt_of_lt_of_eq (Nat.lt_succ_self _) (pending_of_next _step).symm

end Walk

namespace Operation

/-- All operations below an operation, in pre-order, as the stack traversal
produces them. -/
def descendants (op : Operation) : List Operation :=
  (Walk.below op).toList

end Operation

end BoundTree
