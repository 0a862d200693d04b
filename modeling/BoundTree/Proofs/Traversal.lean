import BoundTree.Operation.Walk

/-!
# The stack traversal produces the pre-order

A traversal under way still has to visit the trees on its stack, from the top down.
What it has returned so far, followed by the pre-orders of those trees, never changes:
a step moves one operation from the second part to the end of the first.

**What a run returns is fixed by what lay ahead.**  The requests return the operations
ahead one after the other and from then on nothing.  So a traversal of everything below
an operation returns as many operations as the tree has below its root, whichever of
them are equal to one another.

## Main definitions

* `Walk.ahead` — the operations still to come, in the order of the recursion

## Main statements

* `Walk.next_append_ahead` — a step keeps what was returned together with what lies ahead
* `Walk.requests_append_ahead` — so does every run
* `Walk.requests_eq_take` — what each of any number of requests returns
* `Operation.walk_refines_preorder` — the traversal below an operation
-/

namespace BoundTree

namespace Operation

theorem length_flatMap_preorder (ops : List Operation) :
    (ops.flatMap preorder).length = total (ops.map fun op => op.preorder.length) := by
  induction ops with
  | nil => rfl
  | cons op ops inductionHypothesis =>
    rw [List.flatMap_cons, List.length_append, inductionHypothesis, List.map_cons, total]

theorem length_preorder (op : Operation) : op.preorder.length = op.size := by
  induction op using induction_on_children with
  | step op inductionHypothesis =>
    have lengths : op.children.map (fun child => child.preorder.length) =
        op.children.map size :=
      List.map_congr_left inductionHypothesis
    rw [preorder_eq, List.length_cons, length_flatMap_preorder, lengths, size_eq]

end Operation

namespace Walk

/-- The operations still to come: the pre-orders of the trees on the stack, from the
top down. -/
def ahead (walk : Walk) : List Operation :=
  walk.topDown.flatMap Operation.preorder

/-- A traversal that starts below a root has all of the pre-order ahead but the root. -/
theorem ahead_below (op : Operation) : (below op).ahead = op.preorder.tail := by
  rw [ahead, topDown_below, Operation.preorder_eq, List.tail_cons]

/-! ### One step -/

/-- A traversal with nothing ahead has an empty stack, as a tree is never empty. -/
theorem ahead_eq_nil_iff {walk : Walk} : walk.ahead = [] ↔ walk.topDown = [] := by
  constructor
  · intro nothing
    cases top : walk.topDown with
    | nil => rfl
    | cons op rest =>
      rw [ahead, top, List.flatMap_cons, Operation.preorder_eq] at nothing
      simp at nothing
  · intro ended
    rw [ahead, ended, List.flatMap_nil]

theorem next_of_ahead_nil {walk : Walk} (nothing : walk.ahead = []) :
    walk.next = (none, walk) :=
  next_of_topDown_nil (ahead_eq_nil_iff.1 nothing)

/-- A step returns the first operation ahead and leaves the others ahead. -/
theorem next_of_ahead_cons {walk : Walk} {op : Operation} {rest : List Operation}
    (lies : walk.ahead = op :: rest) :
    walk.next.1 = some op ∧ walk.next.2.ahead = rest := by
  cases top : walk.topDown with
  | nil => rw [ahead, top] at lies; simp at lies
  | cons first others =>
    obtain ⟨returned, left⟩ := next_of_topDown_cons top
    rw [ahead, top, List.flatMap_cons, Operation.preorder_eq, List.cons_append] at lies
    obtain ⟨rfl, rfl⟩ := List.cons.inj lies
    refine ⟨returned, ?_⟩
    rw [ahead, left, List.flatMap_append]

/-- **A step keeps the sequence.**  What it returns, followed by what lies ahead of it,
is what lay ahead before. -/
theorem next_append_ahead (walk : Walk) :
    walk.next.1.toList ++ walk.next.2.ahead = walk.ahead := by
  cases lies : walk.ahead with
  | nil => rw [next_of_ahead_nil lies, lies]; rfl
  | cons op rest =>
    obtain ⟨returned, left⟩ := next_of_ahead_cons lies
    rw [returned, left]
    rfl

/-! ### Runs -/

/-- **A run keeps the sequence**: the operations returned so far, followed by the
pre-orders of the trees on the stack. -/
theorem requests_append_ahead (count : Nat) (walk : Walk) :
    (walk.requests count).1.filterMap id ++ (walk.requests count).2.ahead = walk.ahead := by
  induction count generalizing walk with
  | zero => rfl
  | succ count inductionHypothesis =>
    have step := next_append_ahead walk
    rw [requests, ← step, ← inductionHypothesis walk.next.2, ← List.append_assoc]
    cases walk.next.1 <;> rfl

/-- Any number of requests return the operations ahead in order, and nothing once these
are used up. -/
theorem requests_eq_take (count : Nat) (walk : Walk) :
    (walk.requests count).1 =
      (walk.ahead.take count).map some ++
        List.replicate (count - walk.ahead.length) none := by
  induction count generalizing walk with
  | zero => simp [requests]
  | succ count inductionHypothesis =>
    rw [requests, inductionHypothesis]
    cases lies : walk.ahead with
    | nil =>
      rw [next_of_ahead_nil lies, lies]
      simp [List.replicate_succ]
    | cons op rest =>
      obtain ⟨returned, left⟩ := next_of_ahead_cons lies
      rw [returned, left]
      simp

/-- A traversal returns what it has ahead. -/
theorem toList_eq_ahead (walk : Walk) : walk.toList = walk.ahead := by
  fun_induction toList walk with
  | case1 walk rest step =>
    cases lies : walk.ahead with
    | nil => rfl
    | cons op others =>
      have returned := (next_of_ahead_cons lies).1
      rw [step] at returned
      contradiction
  | case2 walk op rest step inductionHypothesis =>
    have kept := next_append_ahead walk
    rw [step] at kept
    rw [inductionHypothesis, ← kept]
    rfl

end Walk

namespace Operation

/-- The pre-order is the operation followed by what the traversal below it returns. -/
theorem preorder_eq_cons_descendants (op : Operation) :
    op.preorder = op :: op.descendants := by
  rw [descendants, Walk.toList_eq_ahead, Walk.ahead_below, preorder_eq, List.tail_cons]

/-- **The traversal below an operation is its pre-order without the operation itself.**
After any number of requests, the operations returned and the pre-orders of the trees
on the stack, from the top down, make up that sequence.  The requests return its items
one by one, as many as the tree has operations below the root, and then nothing, however
many requests follow. -/
theorem walk_refines_preorder (op : Operation) :
    op.descendants = op.preorder.tail ∧
      op.descendants.length = op.size - 1 ∧
      ∀ count,
        ((Walk.below op).requests count).1.filterMap id ++
            ((Walk.below op).requests count).2.topDown.flatMap preorder =
          op.preorder.tail ∧
        ((Walk.below op).requests count).1 =
          (op.preorder.tail.take count).map some ++
            List.replicate (count - (op.size - 1)) none := by
  have whole : op.descendants = op.preorder.tail := by
    rw [descendants, Walk.toList_eq_ahead, Walk.ahead_below]
  have number : op.preorder.tail.length = op.size - 1 := by
    rw [List.length_tail, length_preorder]
  refine ⟨whole, by rw [whole, number], fun count => ⟨?_, ?_⟩⟩
  · have kept := Walk.requests_append_ahead count (Walk.below op)
    rw [Walk.ahead_below] at kept
    exact kept
  · have returned := Walk.requests_eq_take count (Walk.below op)
    rw [Walk.ahead_below, number] at returned
    exact returned

end Operation

end BoundTree
