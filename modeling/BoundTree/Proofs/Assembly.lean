import BoundTree.Operation.Build
import BoundTree.Operation.Walk

/-!
# Assembly of operations

Operations come from calls of the building functions, one after the other.  A call is
given facts of its own and operations that are at hand: results of earlier calls, and
any operation inside of one.  So an initializer or an assignment can be taken out of
the declaration or the statement around it and put anywhere else.

**Every operation was made by some call.**  A call makes its result, and with a
declaration or a statement also the operation directly inside.  All the rest of the
result are operands.  Hence what the functions establish for the operations that they
make holds of every operation inside of every result, however the operands were
chosen.

## Main definitions

* `BuildCall` — a call of a building function; `BuildCall.result`, `BuildCall.operands`
* `BuildCall.made` — the operations that a call makes
* `BuildRun` — a sequence of calls that take their operands from earlier results
* `Operation.Reachable` — an operation that some sequence of calls puts at hand
* `Operation.ReachableBy` — the same with calls of a given sort only

## Main statements

* `BuildCall.mem_preorder_result` — a result consists of what its call makes and of operands
* `BuildRun.forall_inside` — induction over a run
* `BuildRun.exists_maker` — every operation inside of a result was made by some call
-/

namespace BoundTree

namespace Operation

/-- An operation is inside of a tree if it is the root or inside of a child. -/
theorem mem_preorder_iff {node op : Operation} :
    node ∈ op.preorder ↔ node = op ∨ ∃ child ∈ op.children, node ∈ child.preorder := by
  rw [preorder_eq, List.mem_cons, List.mem_flatMap]

@[simp]
theorem self_mem_preorder (op : Operation) : op ∈ op.preorder :=
  mem_preorder_iff.2 (Or.inl rfl)

theorem mem_preorder_of_mem_children {child op : Operation} (h : child ∈ op.children) :
    child ∈ op.preorder :=
  mem_preorder_iff.2 (Or.inr ⟨child, h, self_mem_preorder child⟩)

/-- What is inside of an operation inside of a tree is inside of the tree. -/
theorem mem_preorder_trans {node inner op : Operation} (below : node ∈ inner.preorder)
    (inside : inner ∈ op.preorder) : node ∈ op.preorder := by
  induction op using induction_on_children with
  | step op inductionHypothesis =>
    rcases mem_preorder_iff.1 inside with rfl | ⟨child, isChild, mem⟩
    · exact below
    · exact mem_preorder_iff.2 (Or.inr ⟨child, isChild, inductionHypothesis child isChild mem⟩)

end Operation

/-- A call of one of the building functions, with its arguments. -/
inductive BuildCall where
  | declare (shape : Shape) (locals : DeclaredLocals) (initial : Option Operation)
      (model : Model) (anchor : Anchor)
  | conditional (condition whenTrue whenFalse : Operation) (type? : Option Ty)
      (model : Model) (anchor : Anchor) (isImplicit : Bool)
  | binary (operator : BinaryOperator) (left right : Operation) (type? : Option Ty)
      (model : Model) (anchor : Anchor) (isLifted isChecked isCompareText isImplicit : Bool)
  | literal (value : ConstantValue) (type? : Option Ty) (model : Model) (anchor : Anchor)
      (isImplicit : Bool)
  | literalInt64 (value : Int64) (type? : Option Ty) (model : Model) (anchor : Anchor)
      (isImplicit : Bool)
  | assign (target value : Operation) (model : Model) (anchor : Anchor) (isImplicit : Bool)
  | assignWith (target value : Operation) (operator : BinaryOperator)
      (isLifted isChecked : Bool) (method? : Option Method) (model : Model)
      (anchor : Anchor) (isImplicit : Bool)
  | invalid (model : Model) (anchor : Anchor) (salvaged : List Operation)
      (isImplicit : Bool)
  | invalidEmpty (model : Model) (anchor : Anchor) (isImplicit : Bool)

namespace BuildCall

/-- The operation that a call returns. -/
def result : BuildCall → Operation
  | declare shape locals initial model anchor =>
    .declare shape locals initial model anchor
  | conditional condition whenTrue whenFalse type? model anchor isImplicit =>
    .conditional condition whenTrue whenFalse type? model anchor isImplicit
  | binary operator left right type? model anchor isLifted isChecked isCompareText isImplicit =>
    .binary operator left right type? model anchor isLifted isChecked isCompareText isImplicit
  | literal value type? model anchor isImplicit =>
    .literal value type? model anchor isImplicit
  | literalInt64 value type? model anchor isImplicit =>
    .literalInt64 value type? model anchor isImplicit
  | assign target value model anchor isImplicit =>
    .assign target value model anchor isImplicit
  | assignWith target value operator isLifted isChecked method? model anchor isImplicit =>
    .assignWith target value operator isLifted isChecked method? model anchor isImplicit
  | invalid model anchor salvaged isImplicit => .invalid model anchor salvaged isImplicit
  | invalidEmpty model anchor isImplicit => .invalidEmpty model anchor isImplicit

/-- The operations that a call is given. -/
def operands : BuildCall → List Operation
  | declare _ _ initial _ _ => initial.toList
  | conditional condition whenTrue whenFalse _ _ _ _ => [condition, whenTrue, whenFalse]
  | binary _ left right _ _ _ _ _ _ _ => [left, right]
  | literal .. => []
  | literalInt64 .. => []
  | assign target value _ _ _ => [target, value]
  | assignWith target value _ _ _ _ _ _ _ => [target, value]
  | invalid _ _ salvaged _ => salvaged
  | invalidEmpty .. => []

/-- The operations that a call makes: its result, and the initializer or the assignment
inside of a declaration or a statement. -/
def made (call : BuildCall) : List Operation :=
  match call with
  | declare .. | assign .. | assignWith .. => call.result :: call.result.children
  | _ => [call.result]

/-- A declaration is made together with the initializer of its initial value. -/
theorem mem_made_declare {shape : Shape} {locals : DeclaredLocals}
    {initial : Option Operation} {model : Model} {anchor : Anchor} {node : Operation} :
    node ∈ (declare shape locals initial model anchor).made ↔
      node = .declare shape locals initial model anchor ∨
        ∃ value ∈ initial, node = .initializerOf shape model value := by
  cases initial <;>
    simp [made, result, Operation.declare, Operation.children]

/-- **A result consists of what its call makes and of operands.** -/
theorem mem_preorder_result {call : BuildCall} {node : Operation} :
    node ∈ call.result.preorder ↔
      node ∈ call.made ∨ ∃ operand ∈ call.operands, node ∈ operand.preorder := by
  rw [Operation.mem_preorder_iff]
  match call with
  | declare _ _ none _ _ =>
    simp [made, result, operands, Operation.declare, Operation.children]
  | declare shape _ (some value) model _ =>
    have inside : node ∈ (Operation.initializerOf shape model value).preorder ↔
        node = Operation.initializerOf shape model value ∨ node ∈ value.preorder := by
      simp [Operation.initializerOf, Operation.preorder]
    simp [made, result, operands, Operation.declare, Operation.children, inside, or_assoc]
  | assign .. | assignWith .. =>
    simp [made, result, operands, Operation.assign, Operation.assignWith,
      Operation.statementOf, Operation.children, Operation.preorder, or_assoc]
  | conditional .. | binary .. | literal .. | literalInt64 .. | invalid .. | invalidEmpty .. =>
    -- only the result is new, and its children are the operands
    exact or_congr_left List.mem_singleton.symm

end BuildCall

/-- A sequence of calls, the latest first.  Each operand of a call is an operation inside
of the result of an earlier one. -/
inductive BuildRun : List BuildCall → Prop
  | nil : BuildRun []
  | cons {call : BuildCall} {calls : List BuildCall} :
      (∀ operand ∈ call.operands,
        ∃ earlier ∈ calls, operand ∈ earlier.result.preorder) →
      BuildRun calls → BuildRun (call :: calls)

/-- An operation is reachable when it is inside of a result of some sequence of calls. -/
def Operation.Reachable (op : Operation) : Prop :=
  ∃ calls, BuildRun calls ∧ ∃ call ∈ calls, op ∈ call.result.preorder

/-- An operation is reachable by calls of a given sort when such a sequence puts it at hand. -/
def Operation.ReachableBy (sort : BuildCall → Prop) (op : Operation) : Prop :=
  ∃ calls, BuildRun calls ∧ (∀ call ∈ calls, sort call) ∧
    ∃ call ∈ calls, op ∈ call.result.preorder

namespace BuildRun

/-- **Induction over a run.**  What every call gives to the operations that it makes,
provided that everything inside of its operands has it, belongs to everything inside of
every result. -/
theorem forall_inside {motive : Operation → Prop} {calls : List BuildCall}
    (run : BuildRun calls)
    (step : ∀ call ∈ calls,
      (∀ operand ∈ call.operands, ∀ node ∈ operand.preorder, motive node) →
        ∀ node ∈ call.made, motive node) :
    ∀ call ∈ calls, ∀ node ∈ call.result.preorder, motive node := by
  induction run with
  | nil =>
    intro call called
    contradiction
  | @cons latest earlier drawn _ inductionHypothesis =>
    obtain ⟨latestStep, earlierSteps⟩ := List.forall_mem_cons.1 step
    have inEarlier := inductionHypothesis earlierSteps
    -- an operand was inside of an earlier result, and so is everything inside of it
    have inOperands : ∀ operand ∈ latest.operands, ∀ node ∈ operand.preorder, motive node := by
      intro operand given node inside
      obtain ⟨source, isEarlier, taken⟩ := drawn operand given
      exact inEarlier source isEarlier node (Operation.mem_preorder_trans inside taken)
    refine List.forall_mem_cons.2 ⟨fun node inside => ?_, inEarlier⟩
    rcases BuildCall.mem_preorder_result.1 inside with makes | ⟨operand, given, mem⟩
    · exact latestStep inOperands node makes
    · exact inOperands operand given node mem

/-- **Every operation inside of a result was made by some call.** -/
theorem exists_maker {calls : List BuildCall} (run : BuildRun calls) {call : BuildCall}
    (called : call ∈ calls) {node : Operation} (inside : node ∈ call.result.preorder) :
    ∃ maker ∈ calls, node ∈ maker.made := by
  have everywhere : ∀ call ∈ calls, ∀ node ∈ call.result.preorder,
      ∃ maker ∈ calls, node ∈ maker.made :=
    run.forall_inside fun maker wasCalled _ _ makes => ⟨maker, wasCalled, makes⟩
  exact everywhere call called node inside

end BuildRun

namespace Operation

/-- Whatever is inside of a reachable operation was made by a call. -/
theorem Reachable.exists_maker {op node : Operation} (reachable : op.Reachable)
    (inside : node ∈ op.preorder) : ∃ maker : BuildCall, node ∈ maker.made := by
  obtain ⟨calls, run, call, called, mem⟩ := reachable
  obtain ⟨maker, _, makes⟩ := run.exists_maker called (mem_preorder_trans inside mem)
  exact ⟨maker, makes⟩

/-- What calls of a given sort give to the operations that they make belongs to everything
inside of an operation that is reachable by them. -/
theorem ReachableBy.forall_inside {sort : BuildCall → Prop} {motive : Operation → Prop}
    {op : Operation} (reachable : op.ReachableBy sort)
    (step : ∀ call, sort call →
      (∀ operand ∈ call.operands, ∀ node ∈ operand.preorder, motive node) →
        ∀ node ∈ call.made, motive node) :
    ∀ node ∈ op.preorder, motive node := by
  obtain ⟨calls, run, allSorted, call, called, mem⟩ := reachable
  have everywhere := run.forall_inside fun call called => step call (allSorted call called)
  intro node inside
  exact everywhere call called node (mem_preorder_trans inside mem)

end Operation

end BoundTree
