import BoundTree.Proofs.Assembly

/-!
# The envelope law

The type of operations does not tie the envelope of an operation to what it holds.  The
building functions do: which attributes are absent, which are those of a part, and
which follow from each other depends on the variant alone.

**The law is about one operation and the parts directly inside.**  A call establishes it
for what it makes, whatever its operands are, so it needs no property of the operands.
That every operation was made by some call extends it to all operations inside of all
reachable ones, also to parts that were taken out of one tree and put into another.

## Main definitions

* `Operation.EnvelopeLaw` — the law, variant by variant

## Main statements

* `BuildCall.envelopeLaw_of_mem_made` — what a call makes satisfies the law
* `Operation.Reachable.envelopeLaw` — so does everything inside of a reachable operation
-/

namespace BoundTree

/-- The envelope of an operation that produces no value. -/
def Envelope.IsValueless (e : Envelope) : Prop :=
  e.type? = none ∧ e.constant? = none

namespace Operation

/-- The operation is an assignment of one of the two forms. -/
def IsAssignment (op : Operation) : Prop :=
  op.kind = .simpleAssignmentExpression ∨ op.kind = .compoundAssignmentExpression

/-- What the building functions make of an operation of each variant.

* A declaration has no value, is never implicit, and declares at least one local.  Its
  initializer, if there is one, is a local initializer of the same model.
* An initializer has the type, the constant and the implicit flag of its value, and is
  anchored on the value's anchor or directly above it.
* A choice and an operator have no constant, and an operator uses no method.
* A statement has no value.  It wraps an assignment of the same model, anchor and
  implicit flag.
* An assignment has the type of its target and no constant.  It uses a method exactly
  when it has one.
* A literal has a constant.
* An invalid construct has no value. -/
def EnvelopeLaw : Operation → Prop
  | variableDeclaration e locals initializer =>
    e.IsValueless ∧ e.isImplicit = false ∧ locals.toList ≠ [] ∧
      ∀ op ∈ initializer, op.kind = .localInitializer ∧ op.model = e.model
  | localInitializer e value =>
    e.type? = value.type? ∧ e.constant? = value.constant? ∧
      e.isImplicit = value.isImplicit ∧
      (e.anchor = value.anchor ∨ value.anchor.parent? = some e.anchor)
  | conditionalExpression e _ _ _ => e.constant? = none
  | expressionStatement e expression =>
    e.IsValueless ∧ expression.IsAssignment ∧ expression.model = e.model ∧
      expression.anchor = e.anchor ∧ expression.isImplicit = e.isImplicit
  | simpleAssignmentExpression e target _ =>
    e.type? = target.type? ∧ e.constant? = none
  | compoundAssignmentExpression e use target _ =>
    e.type? = target.type? ∧ e.constant? = none ∧ use.usesMethod = use.method?.isSome
  | literalExpression e => ∃ value, e.constant? = some value
  | binaryOperatorExpression e use _ _ _ =>
    e.constant? = none ∧ use.usesMethod = false ∧ use.method? = none
  | invalidExpression e _ => e.IsValueless

/-- An initializer is anchored on its value's anchor or directly above it. -/
theorem initializerAnchor_cases (shape : Shape) (value : Anchor) :
    initializerAnchor shape value = value ∨
      value.parent? = some (initializerAnchor shape value) := by
  unfold initializerAnchor
  cases above : value.parent? with
  | none => exact Or.inl rfl
  | some parent =>
    by_cases fits : shape parent
    · exact Or.inr (by simp [fits])
    · exact Or.inl (by simp [fits])

/-- An initializer shares type, constant and flag with its value, and is anchored near it. -/
theorem envelopeLaw_initializerOf (shape : Shape) (model : Model) (value : Operation) :
    (initializerOf shape model value).EnvelopeLaw :=
  ⟨rfl, rfl, rfl, initializerAnchor_cases shape value.anchor⟩

theorem envelopeLaw_declare (shape : Shape) (locals : DeclaredLocals)
    (initial : Option Operation) (model : Model) (anchor : Anchor) :
    (declare shape locals initial model anchor).EnvelopeLaw := by
  refine ⟨⟨rfl, rfl⟩, rfl, locals.ne_nil, fun op isInitializer => ?_⟩
  obtain ⟨value, _, rfl⟩ := Option.map_eq_some_iff.1 isInitializer
  exact ⟨rfl, rfl⟩

/-- An assignment and the statement around it satisfy the law together. -/
theorem envelopeLaw_of_mem_assign {target value node : Operation} {model : Model}
    {anchor : Anchor} {isImplicit : Bool}
    (made : node ∈ (BuildCall.assign target value model anchor isImplicit).made) :
    node.EnvelopeLaw := by
  rcases List.mem_cons.1 made with rfl | inside
  · exact ⟨⟨rfl, rfl⟩, Or.inl rfl, rfl, rfl, rfl⟩
  · rw [List.mem_singleton.1 inside]
    exact ⟨rfl, rfl⟩

/-- The same holds of an assignment that combines target and value by an operator. -/
theorem envelopeLaw_of_mem_assignWith {target value node : Operation}
    {operator : BinaryOperator} {isLifted isChecked : Bool} {method? : Option Method}
    {model : Model} {anchor : Anchor} {isImplicit : Bool}
    (made : node ∈ (BuildCall.assignWith target value operator isLifted isChecked method?
      model anchor isImplicit).made) :
    node.EnvelopeLaw := by
  rcases List.mem_cons.1 made with rfl | inside
  · exact ⟨⟨rfl, rfl⟩, Or.inr rfl, rfl, rfl, rfl⟩
  · rw [List.mem_singleton.1 inside]
    exact ⟨rfl, rfl, rfl⟩

end Operation

/-- **What a call makes satisfies the law**, whatever the operands are. -/
theorem BuildCall.envelopeLaw_of_mem_made {call : BuildCall} {node : Operation}
    (made : node ∈ call.made) : node.EnvelopeLaw := by
  cases call with
  | declare shape locals initial model anchor =>
    rcases List.mem_cons.1 made with rfl | inside
    · exact Operation.envelopeLaw_declare shape locals initial model anchor
    · obtain ⟨value, _, rfl⟩ := Option.map_eq_some_iff.1 (Option.mem_toList.1 inside)
      exact Operation.envelopeLaw_initializerOf shape model value
  | assign => exact Operation.envelopeLaw_of_mem_assign made
  | assignWith => exact Operation.envelopeLaw_of_mem_assignWith made
  | conditional =>
    rw [List.mem_singleton.1 made]
    exact rfl
  | binary =>
    rw [List.mem_singleton.1 made]
    exact ⟨rfl, rfl, rfl⟩
  | literal | literalInt64 =>
    rw [List.mem_singleton.1 made]
    exact ⟨_, rfl⟩
  | invalid | invalidEmpty =>
    rw [List.mem_singleton.1 made]
    exact ⟨rfl, rfl⟩

namespace Operation

/-- **Every operation inside of a reachable one satisfies the law of its variant.** -/
theorem Reachable.envelopeLaw {op : Operation} (reachable : op.Reachable) :
    ∀ node ∈ op.preorder, node.EnvelopeLaw := by
  intro node inside
  obtain ⟨maker, makes⟩ := reachable.exists_maker inside
  exact maker.envelopeLaw_of_mem_made makes

/-! ### A run that takes parts out of results

A literal is declared, its initializer is taken out of the declaration and assigned to,
and the assignment is taken out of the statement and salvaged. -/

/-- A literal in the clause that owns the initial value of a local. -/
def sampleLiteral : BuildCall :=
  .literalInt64 1 (some .int64) ⟨0, "a"⟩
    (.child (.root "equals_value_clause" ⟨6, 9⟩) "literal" ⟨8, 9⟩) false

/-- The declaration of a local with that value. -/
def sampleDeclaration : BuildCall :=
  .declare .equalsValue (.single ⟨"x", .int64, false⟩) (some sampleLiteral.result) ⟨1, "b"⟩
    (.root "declarator" ⟨4, 9⟩)

/-- The initializer of the declared local. -/
def sampleInitializer : Operation :=
  initializerOf .equalsValue ⟨1, "b"⟩ sampleLiteral.result

/-- The assignment of the literal to the initializer. -/
def sampleAssignment : BuildCall :=
  .assign sampleInitializer sampleLiteral.result ⟨2, "c"⟩ (.root "assignment" ⟨4, 9⟩) true

/-- The assignment without its statement, salvaged from an invalid construct. -/
def sampleInvalid : BuildCall :=
  .invalid ⟨3, "d"⟩ (.root "error" ⟨0, 9⟩) sampleAssignment.result.children false

theorem sampleRun :
    BuildRun [sampleInvalid, sampleAssignment, sampleDeclaration, sampleLiteral] := by
  refine .cons ?_ (.cons ?_ (.cons ?_ (.cons ?_ .nil)))
  · intro operand given
    exact ⟨sampleAssignment, by simp, mem_preorder_of_mem_children given⟩
  · intro operand given
    rcases List.mem_cons.1 given with rfl | given
    · exact ⟨sampleDeclaration, by simp, mem_preorder_of_mem_children (List.mem_singleton_self _)⟩
    · rw [List.mem_singleton.1 given]
      exact ⟨sampleLiteral, by simp, self_mem_preorder _⟩
  · intro operand given
    rw [List.mem_singleton.1 given]
    exact ⟨sampleLiteral, by simp, self_mem_preorder _⟩
  · intro operand given
    contradiction

theorem reachable_sampleInvalid : sampleInvalid.result.Reachable :=
  ⟨_, sampleRun, sampleInvalid, List.mem_cons_self, self_mem_preorder _⟩

/-- The law holds of an initializer that was taken out of its declaration and put below an invalid
expression. -/
theorem envelopeLaw_sampleInvalid :
    sampleInvalid.result.Reachable ∧
      sampleInitializer ∈ sampleInvalid.result.preorder ∧
      ∀ node ∈ sampleInvalid.result.preorder, node.EnvelopeLaw :=
  ⟨reachable_sampleInvalid,
    by simp [sampleInvalid, sampleAssignment, BuildCall.result, invalid, assign, statementOf,
      preorder, preorderAll, children],
    Reachable.envelopeLaw reachable_sampleInvalid⟩

end Operation

end BoundTree
