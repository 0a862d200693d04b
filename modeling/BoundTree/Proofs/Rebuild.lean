import BoundTree.Operation.Equality
import BoundTree.Proofs.Agreement
import BoundTree.Proofs.Assembly

/-!
# Rebuilding operations

Rebuilding takes an operation apart and makes it again from its parts, bottom-up and by
the building functions alone.  An initializer and an assignment have no function of their
own.  Around one that stands alone, the declaration or the statement is built that would
hold it, and the part directly inside is taken.

**Nothing that the functions derive is lost.**  They drop or derive many attributes: where
an initializer is anchored and what it shares with its value, the type of an assignment,
whether an operator uses a method, the envelope of what stands inside of a statement.  For
operations that come from the functions these attributes follow from what is read off
while taking the operation apart, so rebuilding gives the operation back.

**What is read is little.**  Of an operation itself the anchor and the contents are read, of
what it holds directly only the variant and the operator.  All else comes from the parts, which
are rebuilt first.

**The shape must be the same.**  Where an initializer is anchored depends on the shape that
its declaration was given, and the shape is not a part of the operation.

## Main definitions

* `Operation.rebuild?` — rebuilding, which fails where a part of the expected variant is absent
* `Reading` — what rebuilding reads of one operation
* `BuildCall.UsesShape` — a call that declares with a given shape only

## Main statements

* `Operation.rebuild?_eq` — rebuilding depends on the reading and on the rebuilt parts only
* `BuildCall.taken_apart_of_mem_made` — taking apart gives what the call was given
* `BuildCall.rebuild?_of_mem_made` — what a call makes is given back if its operands are
* `Operation.ReachableBy.exists_rebuilt_same` — so is every operation reachable with one shape
-/

namespace BoundTree

/-! ### Lists of results -/

/-- A list is given back if each of its items is. -/
theorem mapM_eq_some {α : Type} {f : α → Option α} {as : List α}
    (each : ∀ a ∈ as, f a = some a) : as.mapM f = some as := by
  induction as with
  | nil => rfl
  | cons a as inductionHypothesis =>
    obtain ⟨first, others⟩ := List.forall_mem_cons.1 each
    rw [List.mapM_cons, first, inductionHypothesis others]
    rfl

/-- To go on with a list of results is to take them one by one. -/
theorem mapM_cons_bind {α β γ : Type} (f : α → Option β) (a : α) (as : List α)
    (next : List β → Option γ) :
    ((a :: as).mapM f).bind next =
      (f a).bind fun b => (as.mapM f).bind fun bs => next (b :: bs) := by
  rw [List.mapM_cons]
  cases f a with
  | none => rfl
  | some b => cases as.mapM f <;> rfl

/-! ### What is read -/

/-- The parts that are rebuilt before the operation.  A declaration and a statement are made
around the parts of what they hold, and every other operation around its own. -/
def Operation.innerParts (op : Operation) : List Operation :=
  match op.kind with
  | .variableDeclaration | .expressionStatement => op.children.flatMap Operation.children
  | _ => op.children

/-- What rebuilding reads of one operation. -/
structure Reading where
  anchor : Anchor
  content : Content
  /-- The variants and operators of what the operation holds directly. -/
  inside : List (OperationKind × Option OperatorUse)

/-- What is read of an operation when it is taken apart. -/
def Operation.reading (op : Operation) : Reading where
  anchor := op.anchor
  content := op.content
  inside := op.children.map fun child => (child.kind, child.use?)

/-- The operation that the building functions make for a reading from rebuilt parts. -/
def Reading.make? (shape : Shape) (spare : DeclaredLocals) (reading : Reading)
    (parts : List Operation) : Option Operation :=
  let own := reading.content
  match own.kind, reading.inside, parts with
  | .variableDeclaration, [], [] =>
    own.locals?.map fun locals => .declare shape locals none own.model reading.anchor
  | .variableDeclaration, [(.localInitializer, _)], [value] =>
    own.locals?.map fun locals => .declare shape locals (some value) own.model reading.anchor
  | .localInitializer, _, [value] =>
    (Operation.declare shape spare (some value) own.model reading.anchor).children.head?
  | .conditionalExpression, _, [condition, whenTrue, whenFalse] =>
    some (.conditional condition whenTrue whenFalse own.type? own.model reading.anchor
      own.isImplicit)
  | .expressionStatement, [(.simpleAssignmentExpression, _)], [target, value] =>
    some (.assign target value own.model reading.anchor own.isImplicit)
  | .expressionStatement, [(.compoundAssignmentExpression, use?)], [target, value] =>
    use?.map fun use => .assignWith target value use.operator use.isLifted use.isChecked
      use.method? own.model reading.anchor own.isImplicit
  | .simpleAssignmentExpression, _, [target, value] =>
    (Operation.assign target value own.model reading.anchor own.isImplicit).children.head?
  | .compoundAssignmentExpression, _, [target, value] => do
    let use ← own.use?
    (Operation.assignWith target value use.operator use.isLifted use.isChecked use.method?
      own.model reading.anchor own.isImplicit).children.head?
  | .literalExpression, _, _ => do
    let value ← own.constant?
    return .literal value own.type? own.model reading.anchor own.isImplicit
  | .binaryOperatorExpression, _, [left, right] => do
    let use ← own.use?
    let isCompareText ← own.isCompareText?
    return .binary use.operator left right own.type? own.model reading.anchor use.isLifted
      use.isChecked isCompareText own.isImplicit
  | .invalidExpression, _, salvaged =>
    some (.invalid own.model reading.anchor salvaged own.isImplicit)
  | _, _, _ => none

namespace Operation

/-! ### Taking apart and making again -/

mutual

/-- The operation made again from its parts by the building functions.  Declarations
expect clauses of the given shape, and an initializer that stands alone is built inside of
a declaration of the spare locals. -/
def rebuild? (shape : Shape) (spare : DeclaredLocals) : Operation → Option Operation
  | variableDeclaration e locals none => some (declare shape locals none e.model e.anchor)
  | variableDeclaration e locals (some (localInitializer _ value)) => do
    let value ← value.rebuild? shape spare
    return declare shape locals (some value) e.model e.anchor
  | variableDeclaration _ _ (some _) => none
  | localInitializer e value => do
    let value ← value.rebuild? shape spare
    (declare shape spare (some value) e.model e.anchor).children.head?
  | conditionalExpression e condition whenTrue whenFalse => do
    let condition ← condition.rebuild? shape spare
    let whenTrue ← whenTrue.rebuild? shape spare
    let whenFalse ← whenFalse.rebuild? shape spare
    return conditional condition whenTrue whenFalse e.type? e.model e.anchor e.isImplicit
  | expressionStatement e (simpleAssignmentExpression _ target value) => do
    let target ← target.rebuild? shape spare
    let value ← value.rebuild? shape spare
    return assign target value e.model e.anchor e.isImplicit
  | expressionStatement e (compoundAssignmentExpression _ use target value) => do
    let target ← target.rebuild? shape spare
    let value ← value.rebuild? shape spare
    return assignWith target value use.operator use.isLifted use.isChecked use.method?
      e.model e.anchor e.isImplicit
  | expressionStatement _ _ => none
  | simpleAssignmentExpression e target value => do
    let target ← target.rebuild? shape spare
    let value ← value.rebuild? shape spare
    (assign target value e.model e.anchor e.isImplicit).children.head?
  | compoundAssignmentExpression e use target value => do
    let target ← target.rebuild? shape spare
    let value ← value.rebuild? shape spare
    (assignWith target value use.operator use.isLifted use.isChecked use.method?
      e.model e.anchor e.isImplicit).children.head?
  | literalExpression e => do
    let value ← e.constant?
    return literal value e.type? e.model e.anchor e.isImplicit
  | binaryOperatorExpression e use isCompareText left right => do
    let left ← left.rebuild? shape spare
    let right ← right.rebuild? shape spare
    return binary use.operator left right e.type? e.model e.anchor use.isLifted use.isChecked
      isCompareText e.isImplicit
  | invalidExpression e salvaged => do
    let salvaged ← rebuildAll? shape spare salvaged
    return invalid e.model e.anchor salvaged e.isImplicit

/-- The operations of a list, each made again from its parts. -/
def rebuildAll? (shape : Shape) (spare : DeclaredLocals) :
    List Operation → Option (List Operation)
  | [] => some []
  | op :: ops => do
    let op ← op.rebuild? shape spare
    let ops ← rebuildAll? shape spare ops
    return op :: ops

end

variable {shape : Shape} {spare : DeclaredLocals}

theorem rebuildAll?_eq_mapM (ops : List Operation) :
    rebuildAll? shape spare ops = ops.mapM (rebuild? shape spare) := by
  induction ops with
  | nil => rfl
  | cons op ops inductionHypothesis => rw [rebuildAll?, inductionHypothesis, List.mapM_cons]

/-- Where nothing is made of any parts, it does not matter whether the parts are rebuilt. -/
theorem rebuild?_eq_of_refuses {op : Operation} (absent : op.rebuild? shape spare = none)
    (refuses : ∀ parts, op.reading.make? shape spare parts = none) :
    op.rebuild? shape spare =
      (op.innerParts.mapM (rebuild? shape spare)).bind (op.reading.make? shape spare) := by
  rw [absent, funext refuses, Option.bind_fun_none]

/-- **Rebuilding depends on readings only**: first the parts are rebuilt, and from them and
what is read of the operation itself it is made again. -/
theorem rebuild?_eq (op : Operation) :
    op.rebuild? shape spare =
      (op.innerParts.mapM (rebuild? shape spare)).bind (op.reading.make? shape spare) := by
  cases op with
  | variableDeclaration e locals initializer =>
    cases initializer with
    | none => rfl
    | some initializer =>
      cases initializer with
      | localInitializer e' value =>
        show _ = Option.bind ([value].mapM (rebuild? shape spare)) _
        rw [mapM_cons_bind]
        rfl
      | _ => exact rebuild?_eq_of_refuses rfl fun _ => rfl
  | localInitializer e value =>
    show _ = Option.bind ([value].mapM (rebuild? shape spare)) _
    rw [mapM_cons_bind]
    rfl
  | conditionalExpression e condition whenTrue whenFalse =>
    show _ = Option.bind ([condition, whenTrue, whenFalse].mapM (rebuild? shape spare)) _
    simp only [mapM_cons_bind]
    rfl
  | expressionStatement e expression =>
    cases expression with
    | simpleAssignmentExpression e' target value
    | compoundAssignmentExpression e' use target value =>
      show _ = Option.bind ([target, value].mapM (rebuild? shape spare)) _
      simp only [mapM_cons_bind]
      rfl
    | _ => exact rebuild?_eq_of_refuses rfl fun _ => rfl
  | simpleAssignmentExpression e target value
  | compoundAssignmentExpression e use target value =>
    show _ = Option.bind ([target, value].mapM (rebuild? shape spare)) _
    simp only [mapM_cons_bind]
    rfl
  | literalExpression e => rfl
  | binaryOperatorExpression e use isCompareText left right =>
    show _ = Option.bind ([left, right].mapM (rebuild? shape spare)) _
    simp only [mapM_cons_bind]
    rfl
  | invalidExpression e salvaged =>
    show _ = Option.bind (salvaged.mapM (rebuild? shape spare)) _
    rw [rebuild?, rebuildAll?_eq_mapM]
    rfl

end Operation

/-! ### Giving back what was made -/

namespace BuildCall

/-- The call, if it is a declaration, expects initial values in a clause of a given shape. -/
def UsesShape (shape : Shape) : BuildCall → Prop
  | declare expected _ _ _ _ => expected = shape
  | _ => True

variable {shape : Shape} {spare : DeclaredLocals} {call : BuildCall} {node : Operation}

/-- **Taking apart what a call makes gives what the call was given**: the operands are its
parts, and all else can be told from what is read of it.  An initializer is made again by the
spare declaration, which anchors it alike. -/
theorem taken_apart_of_mem_made (usesShape : call.UsesShape shape) (makes : node ∈ call.made) :
    node.innerParts = call.operands ∧
      node.reading.make? shape spare call.operands = some node := by
  cases call with
  | declare expected locals initial model anchor =>
    obtain rfl : expected = shape := usesShape
    rcases mem_made_declare.1 makes with rfl | ⟨value, isInitial, rfl⟩
    · cases initial <;> exact ⟨rfl, rfl⟩
    · obtain rfl := Option.mem_def.1 isInitial
      exact ⟨rfl, rfl⟩
  | assign | assignWith =>
    -- the statement and the assignment inside of it are made from the same operands
    rcases List.mem_cons.1 makes with rfl | inside
    · exact ⟨rfl, rfl⟩
    · rw [List.mem_singleton.1 inside]
      exact ⟨rfl, rfl⟩
  | conditional | binary | literal | literalInt64 | invalid | invalidEmpty =>
    rw [List.mem_singleton.1 makes]
    exact ⟨rfl, rfl⟩

/-- **What a call makes is given back if its operands are.** -/
theorem rebuild?_of_mem_made (usesShape : call.UsesShape shape)
    (given : ∀ operand ∈ call.operands, operand.rebuild? shape spare = some operand) :
    ∀ node ∈ call.made, node.rebuild? shape spare = some node := by
  intro node makes
  obtain ⟨parts, madeAgain⟩ := taken_apart_of_mem_made usesShape makes
  have rebuilt : call.operands.mapM (Operation.rebuild? shape spare) = some call.operands :=
    mapM_eq_some given
  rw [Operation.rebuild?_eq, parts, rebuilt, Option.bind_some, madeAgain]

end BuildCall

namespace Operation

/-- **Rebuilding gives every operation back that is reachable with one shape.**  It does not
fail, and what it makes is equal to the operation, constants that are no number and parts
taken out of other operations included. -/
theorem ReachableBy.exists_rebuilt_same {shape : Shape} {op : Operation}
    (reachable : op.ReachableBy (·.UsesShape shape)) (spare : DeclaredLocals) :
    ∃ rebuilt, op.rebuild? shape spare = some rebuilt ∧ rebuilt.same op := by
  have givenBack : ∀ node ∈ op.preorder, node.rebuild? shape spare = some node := by
    refine reachable.forall_inside fun call usesShape operands => ?_
    exact call.rebuild?_of_mem_made usesShape fun operand given =>
      operands operand given operand (self_mem_preorder operand)
  exact ⟨op, givenBack op (self_mem_preorder op), (same_iff op op).2 rfl⟩

/-! ### A run that takes parts out of results

A value that is no number is declared, its initializer is taken out of the declaration and
added to, and the assignment is taken out of the statement and salvaged. -/

/-- A literal that is no number, in the clause that owns the initial value of a local. -/
def strayLiteral : BuildCall :=
  .literal (.double 0x7FF8000000000001) none ⟨0, "a"⟩
    (.child (.root "equals_value_clause" ⟨6, 9⟩) "literal" ⟨8, 9⟩) true

/-- The declaration of two locals with that value. -/
def strayDeclaration : BuildCall :=
  .declare .equalsValue ⟨[⟨"x", .error, false⟩, ⟨"y", .string, true⟩], by simp⟩
    (some strayLiteral.result) ⟨1, "b"⟩ (.root "declarator" ⟨4, 9⟩)

/-- The initializer of the declaration, added to by the literal. -/
def strayAssignment : BuildCall :=
  .assignWith (initializerOf .equalsValue ⟨1, "b"⟩ strayLiteral.result) strayLiteral.result
    .add true false none ⟨2, "c"⟩ (.root "assignment" ⟨4, 9⟩) false

/-- The assignment without its statement, salvaged from an invalid construct. -/
def strayInvalid : BuildCall :=
  .invalid ⟨3, "d"⟩ (.root "error" ⟨0, 9⟩) strayAssignment.result.children false

theorem reachableBy_strayInvalid :
    strayInvalid.result.ReachableBy (·.UsesShape .equalsValue) := by
  refine ⟨[strayInvalid, strayAssignment, strayDeclaration, strayLiteral], ?_, ?_,
    strayInvalid, List.mem_cons_self, self_mem_preorder _⟩
  · refine .cons ?_ (.cons ?_ (.cons ?_ (.cons ?_ .nil)))
    · intro operand given
      exact ⟨strayAssignment, by simp, mem_preorder_of_mem_children given⟩
    · intro operand given
      rcases List.mem_cons.1 given with rfl | given
      · exact ⟨strayDeclaration, by simp,
          mem_preorder_of_mem_children (List.mem_singleton_self _)⟩
      · rw [List.mem_singleton.1 given]
        exact ⟨strayLiteral, by simp, self_mem_preorder _⟩
    · intro operand given
      rw [List.mem_singleton.1 given]
      exact ⟨strayLiteral, by simp, self_mem_preorder _⟩
    · intro operand given
      contradiction
  · simp only [List.forall_mem_cons]
    exact ⟨trivial, trivial, rfl, trivial, by simp⟩

theorem exists_rebuilt_same_strayInvalid :
    strayInvalid.result.ReachableBy (·.UsesShape .equalsValue) ∧
      ∃ rebuilt, strayInvalid.result.rebuild? .equalsValue (.single ⟨"z", .error, false⟩) =
        some rebuilt ∧ rebuilt.same strayInvalid.result :=
  ⟨reachableBy_strayInvalid,
    ReachableBy.exists_rebuilt_same reachableBy_strayInvalid (.single ⟨"z", .error, false⟩)⟩

end Operation

end BoundTree
