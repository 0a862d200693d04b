import BoundTree.Proofs.Assembly
import Mathlib.Logic.Relation

/-!
# Assembly invents nothing

An operation records facts: its model, its type, its constant, the method of its operator,
the locals that it declares.  The building functions take some of these from their
arguments and others from the operands.  They make up none.

**Facts travel unchanged, anchors may climb.**  What an operation records was given to the
call that made it or is recorded by an operand, so over a whole run every fact goes back to
an argument of some call.  The anchor of an initializer is the only attribute that may
differ from what was given.  It is the anchor of the value or the parent of that anchor,
and when an initializer is the value of another declaration, it may climb once more.  So an
anchor is reached from a given one by steps to parents that the shapes of the run accept.

## Main definitions

* `Fact` — what an operation records; `Operation.Records`, `BuildCall.Gives`
* `BuildCall.Accepts` — a declaration that expects the shape of an anchor
* `ClimbsIn` — a step to a parent that some declaration of a run accepts

## Main statements

* `BuildCall.gives_or_exists_of_mem_made` — a call makes no fact
* `BuildCall.anchor_of_mem_made` — where a call anchors what it makes
* `BuildRun.nothing_invented` — where the facts and the anchors of a run come from
-/

namespace BoundTree

/-! ### Facts -/

/-- Something that an operation records and that a call can be given. -/
inductive Fact where
  | model (model : Model)
  | type (type : Ty)
  | constant (value : ConstantValue)
  | method (method : Method)
  | declared (declared : Local)

namespace Operation

/-- The locals that an operation declares. -/
def declared : Operation → List Local
  | variableDeclaration _ locals _ => locals.toList
  | _ => []

/-- The method that implements the operator of an operation. -/
def method? : Operation → Option Method
  | compoundAssignmentExpression _ use _ _ => use.method?
  | binaryOperatorExpression _ use _ _ _ => use.method?
  | _ => none

/-- The operation has an attribute with this content. -/
def Records (op : Operation) : Fact → Prop
  | .model model => op.model = model
  | .type type => op.type? = some type
  | .constant value => op.constant? = some value
  | .method method => op.method? = some method
  | .declared declared => declared ∈ op.declared

end Operation

namespace BuildCall

/-- The model that a call is given. -/
def model : BuildCall → Model
  | declare _ _ _ model _ => model
  | conditional _ _ _ _ model _ _ => model
  | binary _ _ _ _ model _ _ _ _ _ => model
  | literal _ _ model _ _ => model
  | literalInt64 _ _ model _ _ => model
  | assign _ _ model _ _ => model
  | assignWith _ _ _ _ _ _ model _ _ => model
  | invalid model _ _ _ => model
  | invalidEmpty model _ _ => model

/-- The anchor that a call is given. -/
def anchor : BuildCall → Anchor
  | declare _ _ _ _ anchor => anchor
  | conditional _ _ _ _ _ anchor _ => anchor
  | binary _ _ _ _ _ anchor _ _ _ _ => anchor
  | literal _ _ _ anchor _ => anchor
  | literalInt64 _ _ _ anchor _ => anchor
  | assign _ _ _ anchor _ => anchor
  | assignWith _ _ _ _ _ _ _ anchor _ => anchor
  | invalid _ anchor _ _ => anchor
  | invalidEmpty _ anchor _ => anchor

/-- The type that a call is given. -/
def givenType? : BuildCall → Option Ty
  | conditional _ _ _ type? _ _ _ => type?
  | binary _ _ _ type? _ _ _ _ _ _ => type?
  | literal _ type? _ _ _ => type?
  | literalInt64 _ type? _ _ _ => type?
  | _ => none

/-- The constant that a call is given. -/
def given? : BuildCall → Option ConstantValue
  | literal value .. => some value
  | literalInt64 value .. => some (.ofInt64 value)
  | _ => none

/-- The method that a call is given. -/
def givenMethod? : BuildCall → Option Method
  | assignWith _ _ _ _ _ method? _ _ _ => method?
  | _ => none

/-- The locals that a call is given. -/
def givenLocals : BuildCall → List Local
  | declare _ locals _ _ _ => locals.toList
  | _ => []

/-- The shape that a declaration expects around the initial value. -/
def shape? : BuildCall → Option Shape
  | declare shape _ _ _ _ => some shape
  | _ => none

/-- An argument of the call is this fact.  The integer of a literal counts as its constant. -/
def Gives (call : BuildCall) : Fact → Prop
  | .model model => call.model = model
  | .type type => call.givenType? = some type
  | .constant value => call.given? = some value
  | .method method => call.givenMethod? = some method
  | .declared declared => declared ∈ call.givenLocals

variable {call : BuildCall} {node : Operation} {fact : Fact}

/-- A declaration is given its model and its locals.  An initializer takes type and constant
from its value. -/
theorem gives_or_exists_of_mem_made_declare {shape : Shape} {locals : DeclaredLocals}
    {initial : Option Operation} {model : Model} {anchor : Anchor}
    (made : node ∈ (declare shape locals initial model anchor).made)
    (records : node.Records fact) :
    (declare shape locals initial model anchor).Gives fact ∨
      ∃ value ∈ initial, value.Records fact := by
  rcases mem_made_declare.1 made with rfl | ⟨value, isInitial, rfl⟩
  · cases fact with
    | model | declared => exact .inl records
    | type | constant | method => contradiction
  · cases fact with
    | model => exact .inl records
    | type | constant => exact .inr ⟨value, isInitial, records⟩
    | method | declared => contradiction

/-- A statement records the model only, and an assignment takes the type of its target. -/
theorem gives_or_records_of_mem_made_assign {target value : Operation} {model : Model}
    {anchor : Anchor} {isImplicit : Bool}
    (made : node ∈ (assign target value model anchor isImplicit).made)
    (records : node.Records fact) :
    (assign target value model anchor isImplicit).Gives fact ∨ target.Records fact := by
  rcases List.mem_cons.1 made with rfl | inside
  · cases fact with
    | model => exact .inl records
    | type | constant | method | declared => contradiction
  · rw [List.mem_singleton.1 inside] at records
    cases fact with
    | model => exact .inl records
    | type => exact .inr records
    | constant | method | declared => contradiction

/-- An assignment with an operator also records the method that is given for it. -/
theorem gives_or_records_of_mem_made_assignWith {target value : Operation}
    {operator : BinaryOperator} {isLifted isChecked : Bool} {method? : Option Method}
    {model : Model} {anchor : Anchor} {isImplicit : Bool}
    (made : node ∈ (assignWith target value operator isLifted isChecked method?
      model anchor isImplicit).made)
    (records : node.Records fact) :
    (assignWith target value operator isLifted isChecked method? model anchor
      isImplicit).Gives fact ∨ target.Records fact := by
  rcases List.mem_cons.1 made with rfl | inside
  · cases fact with
    | model => exact .inl records
    | type | constant | method | declared => contradiction
  · rw [List.mem_singleton.1 inside] at records
    cases fact with
    | model | method => exact .inl records
    | type => exact .inr records
    | constant | declared => contradiction

/-- **A call makes no fact.**  What an operation that it makes records was given to it or is
recorded by an operand. -/
theorem gives_or_exists_of_mem_made (made : node ∈ call.made) (records : node.Records fact) :
    call.Gives fact ∨ ∃ operand ∈ call.operands, operand.Records fact := by
  cases call with
  | declare =>
    refine (gives_or_exists_of_mem_made_declare made records).imp_right ?_
    rintro ⟨value, isInitial, recorded⟩
    exact ⟨value, Option.mem_toList.2 isInitial, recorded⟩
  | assign target =>
    refine (gives_or_records_of_mem_made_assign made records).imp_right fun recorded => ?_
    exact ⟨target, List.mem_cons_self, recorded⟩
  | assignWith target =>
    refine (gives_or_records_of_mem_made_assignWith made records).imp_right fun recorded => ?_
    exact ⟨target, List.mem_cons_self, recorded⟩
  | conditional | binary =>
    -- no part of the envelope is that of an operand, and there are no constant and no method
    rw [List.mem_singleton.1 made] at records
    cases fact with
    | model | type => exact .inl records
    | constant | method | declared => contradiction
  | literal | literalInt64 =>
    rw [List.mem_singleton.1 made] at records
    cases fact with
    | model | type | constant => exact .inl records
    | method | declared => contradiction
  | invalid | invalidEmpty =>
    rw [List.mem_singleton.1 made] at records
    cases fact with
    | model => exact .inl records
    | type | constant | method | declared => contradiction

/-! ### Anchors -/

/-- The call is a declaration that expects the shape of this anchor. -/
def Accepts (call : BuildCall) (anchor : Anchor) : Prop :=
  ∃ shape, call.shape? = some shape ∧ shape anchor = true

end BuildCall

/-- The upper anchor is the parent of the lower one, and some declaration among the calls
expects its shape. -/
def ClimbsIn (calls : List BuildCall) (lower upper : Anchor) : Prop :=
  lower.parent? = some upper ∧ ∃ call ∈ calls, call.Accepts upper

namespace ClimbsIn

/-- A family of anchors that is closed under parents is not left by climbing. -/
theorem keeps {calls : List BuildCall} {family : Anchor → Prop} {lower upper : Anchor}
    (closed : ∀ anchor parent, family anchor → anchor.parent? = some parent → family parent)
    (climb : Relation.ReflTransGen (ClimbsIn calls) lower upper) (start : family lower) :
    family upper := by
  induction climb with
  | refl => exact start
  | tail _ step inductionHypothesis => exact closed _ _ inductionHypothesis step.1

end ClimbsIn

/-- An initializer is anchored on the parent of its value's anchor if that parent has the
expected shape, and on the value's anchor otherwise, also where there is no parent. -/
theorem Operation.initializerAnchor_climbs_or_stays (shape : Shape) (value : Anchor) :
    (∃ parent, value.parent? = some parent ∧ shape parent = true ∧
        initializerAnchor shape value = parent) ∨
      (¬ ∃ parent, value.parent? = some parent ∧ shape parent = true) ∧
        initializerAnchor shape value = value := by
  unfold initializerAnchor
  cases value.parent? with
  | none => exact .inr ⟨by simp, rfl⟩
  | some parent =>
    by_cases fits : shape parent
    · exact .inl ⟨parent, rfl, fits, by simp [fits]⟩
    · exact .inr ⟨by simpa using fits, by simp [fits]⟩

namespace BuildCall

/-- **Where a call anchors what it makes**: where it was told to, or, an initializer, with its
value or on a parent of that anchor which the call accepts. -/
theorem anchor_of_mem_made {call : BuildCall} {node : Operation} (made : node ∈ call.made) :
    node.anchor = call.anchor ∨
      ∃ operand ∈ call.operands, node.anchor = operand.anchor ∨
        operand.anchor.parent? = some node.anchor ∧ call.Accepts node.anchor := by
  cases call with
  | declare shape locals initial model anchor =>
    rcases mem_made_declare.1 made with rfl | ⟨value, isInitial, rfl⟩
    · exact .inl rfl
    · refine .inr ⟨value, Option.mem_toList.2 isInitial, ?_⟩
      rcases Operation.initializerAnchor_climbs_or_stays shape value.anchor with
        ⟨_, isParent, fits, rfl⟩ | ⟨-, anchored⟩
      · exact .inr ⟨isParent, shape, rfl, fits⟩
      · exact .inl anchored
  | assign | assignWith =>
    rcases List.mem_cons.1 made with rfl | inside
    · exact .inl rfl
    · rw [List.mem_singleton.1 inside]
      exact .inl rfl
  | conditional | binary | literal | literalInt64 | invalid | invalidEmpty =>
    rw [List.mem_singleton.1 made]
    exact .inl rfl

end BuildCall

/-! ### Runs -/

namespace BuildRun

variable {calls : List BuildCall}

/-- Every fact in the results of a run was given to one of its calls. -/
theorem exists_gives (run : BuildRun calls) : ∀ call ∈ calls, ∀ node ∈ call.result.preorder,
    ∀ fact, node.Records fact → ∃ source ∈ calls, source.Gives fact := by
  refine run.forall_inside fun maker wasCalled inOperands node made fact records => ?_
  rcases maker.gives_or_exists_of_mem_made made records with given | ⟨operand, isOperand, had⟩
  · exact ⟨maker, wasCalled, given⟩
  · exact inOperands operand isOperand operand (Operation.self_mem_preorder operand) fact had

/-- Every anchor in the results of a run is reached by climbing from a given one. -/
theorem exists_climb (run : BuildRun calls) : ∀ call ∈ calls, ∀ node ∈ call.result.preorder,
    ∃ source ∈ calls, Relation.ReflTransGen (ClimbsIn calls) source.anchor node.anchor := by
  refine run.forall_inside fun maker wasCalled inOperands node made => ?_
  rcases maker.anchor_of_mem_made made with given | ⟨operand, isOperand, fromOperand⟩
  · exact ⟨maker, wasCalled, given ▸ .refl⟩
  · obtain ⟨source, isCall, climb⟩ :=
      inOperands operand isOperand operand (Operation.self_mem_preorder operand)
    rcases fromOperand with same | ⟨isParent, accepts⟩
    · exact ⟨source, isCall, same ▸ climb⟩
    · exact ⟨source, isCall, climb.tail ⟨isParent, maker, wasCalled, accepts⟩⟩

/-- **Nothing in the results of a run is invented.**  Models, types, constants, methods and
locals were given to some call as they are.  Anchors were given or are reached from given
ones by steps to parents, each of which some declaration of the run accepts.  So a run with
one model gives operations of that model only, and a run with anchors of a family that is
closed under parents never leaves the family. -/
theorem nothing_invented (run : BuildRun calls) :
    (∀ call ∈ calls, ∀ node ∈ call.result.preorder,
      (∀ fact, node.Records fact → ∃ source ∈ calls, source.Gives fact) ∧
      ∃ source ∈ calls, Relation.ReflTransGen (ClimbsIn calls) source.anchor node.anchor) ∧
    (∀ model, (∀ call ∈ calls, call.model = model) →
      ∀ call ∈ calls, ∀ node ∈ call.result.preorder, node.model = model) ∧
    ∀ family : Anchor → Prop,
      (∀ anchor parent, family anchor → anchor.parent? = some parent → family parent) →
      (∀ call ∈ calls, family call.anchor) →
      ∀ call ∈ calls, ∀ node ∈ call.result.preorder, family node.anchor := by
  refine ⟨?_, ?_, ?_⟩
  · intro call called node inside
    exact ⟨run.exists_gives call called node inside, run.exists_climb call called node inside⟩
  · intro model sameModel call called node inside
    obtain ⟨source, isCall, given⟩ :=
      run.exists_gives call called node inside (.model node.model) rfl
    have given : source.model = node.model := given
    rw [← given, sameModel source isCall]
  · intro family closed given call called node inside
    obtain ⟨source, isCall, climb⟩ := run.exists_climb call called node inside
    exact ClimbsIn.keeps closed climb (given source isCall)

end BuildRun

/-! ### A run in which an anchor climbs twice

A literal is declared three times, each time through the initializer of the declaration
before.  The first declaration expects the clause around the literal, the second expects
nothing, and the third expects the block around the clause.  The last initializer is then
the target of an assignment with a method. -/

namespace Operation

/-- The block that encloses the literal. -/
def nestedBlock : Anchor :=
  .root "block" ⟨0, 20⟩

/-- The clause of the literal in the block. -/
def nestedClause : Anchor :=
  .child nestedBlock "equals_value_clause" ⟨6, 9⟩

/-- The literal in the clause. -/
def nestedLiteral : BuildCall :=
  .literalInt64 1 (some .int64) ⟨0, "a"⟩ (.child nestedClause "literal" ⟨8, 9⟩) true

/-- A declaration of one local with an initial value. -/
def nestedDeclaration (shape : Shape) (name : String) (value : Operation) : BuildCall :=
  .declare shape (.single ⟨name, .int64, false⟩) (some value) ⟨1, "b"⟩
    (.root "declarator" ⟨4, 9⟩)

/-- The initializer of the literal, on the clause. -/
def innerInitializer : Operation :=
  initializerOf .equalsValue ⟨1, "b"⟩ nestedLiteral.result

/-- The initializer of that initializer, also on the clause. -/
def middleInitializer : Operation :=
  initializerOf .never ⟨1, "b"⟩ innerInitializer

/-- The outermost initializer, on the block. -/
def outerInitializer : Operation :=
  initializerOf (.ofKind "block") ⟨1, "b"⟩ middleInitializer

/-- The assignment to the outermost initializer. -/
def nestedAssignment : BuildCall :=
  .assignWith outerInitializer nestedLiteral.result .add false true
    (some ⟨"plus", .object, [.int64], .int64⟩) ⟨2, "c"⟩ (.root "assignment" ⟨4, 9⟩) false

/-- The whole run, the latest call first. -/
def nestedCalls : List BuildCall :=
  [nestedAssignment, nestedDeclaration (.ofKind "block") "z" middleInitializer,
    nestedDeclaration .never "y" innerInitializer,
    nestedDeclaration .equalsValue "x" nestedLiteral.result, nestedLiteral]

theorem buildRun_nestedCalls : BuildRun nestedCalls := by
  have literal : ∀ earlier : List BuildCall, nestedLiteral ∈ earlier →
      ∃ call ∈ earlier, nestedLiteral.result ∈ call.result.preorder :=
    fun _ called => ⟨_, called, self_mem_preorder _⟩
  refine .cons ?_ (.cons ?_ (.cons ?_ (.cons ?_ (.cons ?_ .nil))))
  · intro operand given
    rcases List.mem_cons.1 given with rfl | given
    · exact ⟨_, List.mem_cons_self, mem_preorder_of_mem_children List.mem_cons_self⟩
    · rw [List.mem_singleton.1 given]
      exact literal _ (by simp)
  · intro operand given
    rw [List.mem_singleton.1 given]
    exact ⟨_, List.mem_cons_self, mem_preorder_of_mem_children List.mem_cons_self⟩
  · intro operand given
    rw [List.mem_singleton.1 given]
    exact ⟨_, List.mem_cons_self, mem_preorder_of_mem_children List.mem_cons_self⟩
  · intro operand given
    rw [List.mem_singleton.1 given]
    exact literal _ (by simp)
  · intro operand given
    contradiction

theorem outerInitializer_mem_preorder :
    outerInitializer ∈ nestedAssignment.result.preorder := by
  simp [nestedAssignment, BuildCall.result, assignWith, statementOf, preorder]

theorem nothing_invented_nestedCalls :
    BuildRun nestedCalls ∧ outerInitializer ∈ nestedAssignment.result.preorder ∧
      outerInitializer.anchor = nestedBlock ∧
      (∀ fact, outerInitializer.Records fact → ∃ source ∈ nestedCalls, source.Gives fact) ∧
      ∃ source ∈ nestedCalls,
        Relation.ReflTransGen (ClimbsIn nestedCalls) source.anchor outerInitializer.anchor :=
  ⟨buildRun_nestedCalls, outerInitializer_mem_preorder, rfl,
    (BuildRun.nothing_invented buildRun_nestedCalls).1 nestedAssignment List.mem_cons_self
      outerInitializer outerInitializer_mem_preorder⟩

end Operation

end BoundTree
