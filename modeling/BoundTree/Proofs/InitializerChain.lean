import BoundTree.Proofs.Agreement
import BoundTree.Proofs.EnvelopeLaw
import BoundTree.Proofs.Provenance

/-!
# Chains of initializers

An initializer can be taken out of its declaration and become the initial value of another
one.  Then initializers are nested, and the chain of their values ends in an operation that
is none.

**What a chain hands on.**  Each link has the type, the constant and the implicit flag of its
value, so the outermost link has those of the end.  The anchor is handed on too, but at each
link it may climb by one step, to a parent of the shape that the declaration of the link
expects.  The declarations of a chain may expect different shapes, so the outermost anchor is
some number of steps above the anchor of the end, at most as many as there are links.

**Only literals bring a constant.**  No other operation that ends a chain has one.

## Main definitions

* `Operation.nested`, `Operation.origin` — the initializers of a chain and its end
* `Anchor.above?` — the anchor a number of steps up
* `BuiltLink` — a declaration of a run built this initializer around this value
* `LinkLaw`, `ChainLaw` — what holds at each link, and what holds between the ends

## Main statements

* `Anchor.ne_of_above?` — no element encloses itself, directly or further up
* `BuiltLink.linkLaw` — one link
* `Operation.chainLaw_of_built` — a whole chain, by induction over its links
* `BuildRun.chains_of_initializers` — all chains in the results of a run, and their constants
-/

namespace BoundTree

namespace Anchor

/-- The enclosing element a number of steps up. -/
def above? (anchor : Anchor) : Nat → Option Anchor
  | 0 => some anchor
  | steps + 1 => (anchor.above? steps).bind parent?

variable {anchor ancestor parent : Anchor} {steps : Nat}

theorem chain_of_parent? (isParent : anchor.parent? = some parent) :
    parent.chain = anchor.chain.tail := by
  cases anchor with
  | root kind span => cases isParent
  | child inner kind span =>
    obtain rfl := Option.some.inj isParent
    rfl

/-- The chain of an enclosing element is what a longer chain ends in. -/
theorem chain_of_above? (isAbove : anchor.above? steps = some ancestor) :
    ancestor.chain = anchor.chain.drop steps := by
  induction steps generalizing ancestor with
  | zero =>
    obtain rfl := Option.some.inj isAbove
    rfl
  | succ steps inductionHypothesis =>
    obtain ⟨below, isBelow, isParent⟩ := Option.bind_eq_some_iff.1 isAbove
    rw [chain_of_parent? isParent, inductionHypothesis isBelow, List.tail_drop]

/-- **No element encloses itself**, directly or further up. -/
theorem ne_of_above? (isAbove : anchor.above? (steps + 1) = some ancestor) :
    ancestor ≠ anchor := by
  rintro rfl
  have sameLength := congrArg List.length (chain_of_above? isAbove)
  have someElement := List.length_pos_iff.2 ancestor.chain_ne_nil
  rw [List.length_drop] at sameLength
  omega

theorem ne_of_parent? (isParent : anchor.parent? = some parent) : parent ≠ anchor := by
  have isAbove : anchor.above? (0 + 1) = some parent := isParent
  exact ne_of_above? isAbove

end Anchor

namespace Operation

/-! ### Following the values -/

/-- The value of an initializer. -/
def value? : Operation → Option Operation
  | localInitializer _ value => some value
  | _ => none

/-- The initializers that are nested in each other through their values, the outermost
first.  There are none in any other operation. -/
def nested : Operation → List Operation
  | localInitializer e value => localInitializer e value :: value.nested
  | _ => []

/-- The first operation that is no initializer when values are followed. -/
def origin : Operation → Operation
  | localInitializer _ value => value.origin
  | op => op

/-- Induction over the links of a chain, from its end outwards. -/
theorem induction_on_chain {motive : Operation → Prop}
    (ends : ∀ op, op.kind ≠ .localInitializer → motive op)
    (link : ∀ e value, motive value → motive (localInitializer e value)) (op : Operation) :
    motive op := by
  induction op using induction_on_children with
  | step op inductionHypothesis =>
    cases op with
    | localInitializer e value =>
      exact link e value (inductionHypothesis value (List.mem_singleton_self value))
    | _ => exact ends _ (by simp [kind])

theorem nested_of_kind_ne {op : Operation} (other : op.kind ≠ .localInitializer) :
    op.nested = [] := by
  cases op with
  | localInitializer => exact absurd rfl other
  | _ => rfl

theorem origin_of_kind_ne {op : Operation} (other : op.kind ≠ .localInitializer) :
    op.origin = op := by
  cases op with
  | localInitializer => exact absurd rfl other
  | _ => rfl

theorem nested_ne_nil {op : Operation} (isInitializer : op.kind = .localInitializer) :
    op.nested ≠ [] := by
  cases op with
  | localInitializer e value => exact List.cons_ne_nil _ _
  | _ => cases isInitializer

/-- A chain ends in an operation that is no initializer. -/
theorem origin_kind_ne (op : Operation) : op.origin.kind ≠ .localInitializer := by
  induction op using induction_on_chain with
  | ends op other => rwa [origin_of_kind_ne other]
  | link e value inductionHypothesis => exact inductionHypothesis

theorem origin_mem_preorder (op : Operation) : op.origin ∈ op.preorder := by
  induction op using induction_on_chain with
  | ends op other => rw [origin_of_kind_ne other]; exact self_mem_preorder op
  | link e value inductionHypothesis => exact List.mem_cons_of_mem _ inductionHypothesis

theorem mem_preorder_of_mem_nested {link op : Operation} (isLink : link ∈ op.nested) :
    link ∈ op.preorder := by
  induction op using induction_on_chain with
  | ends op other => simp [nested_of_kind_ne other] at isLink
  | link e value inductionHypothesis =>
    rcases List.mem_cons.1 isLink with rfl | inner
    · exact self_mem_preorder _
    · exact List.mem_cons_of_mem _ (inductionHypothesis inner)

/-- Every link is an initializer of a value. -/
theorem exists_value_of_mem_nested {link op : Operation} (isLink : link ∈ op.nested) :
    ∃ e value, link = localInitializer e value := by
  induction op using induction_on_chain with
  | ends op other => simp [nested_of_kind_ne other] at isLink
  | link e value inductionHypothesis =>
    rcases List.mem_cons.1 isLink with rfl | inner
    · exact ⟨e, value, rfl⟩
    · exact inductionHypothesis inner

end Operation

/-! ### One link -/

/-- A declaration among the calls, which expects a given shape, built this initializer around
this initial value. -/
def BuiltLink (calls : List BuildCall) (shape : Shape) (link value : Operation) : Prop :=
  ∃ locals model anchor, .declare shape locals (some value) model anchor ∈ calls ∧
    (Operation.declare shape locals (some value) model anchor).children = [link]

/-- What holds between an initializer and its value.  The anchor climbs by one step, by
whichever declaration the initializer is built, exactly if the value's anchor has a parent
of the shape that the declaration expects.  Otherwise it stays. -/
structure LinkLaw (calls : List BuildCall) (link value : Operation) : Prop where
  value_eq : link.value? = some value
  type_eq : link.type? = value.type?
  constant_eq : link.constant? = value.constant?
  isImplicit_eq : link.isImplicit = value.isImplicit
  built : ∃ shape, BuiltLink calls shape link value
  climbs_iff : ∀ shape, BuiltLink calls shape link value →
    (value.anchor.parent? = some link.anchor ↔
      ∃ parent, value.anchor.parent? = some parent ∧ shape parent = true)
  stays : value.anchor.parent? ≠ some link.anchor → link.anchor = value.anchor

namespace BuiltLink

variable {calls : List BuildCall} {shape : Shape} {link value : Operation}

/-- A link that was built is the initializer of its value. -/
theorem exists_eq_initializerOf (built : BuiltLink calls shape link value) :
    ∃ model, link = .initializerOf shape model value := by
  obtain ⟨locals, model, anchor, -, inside⟩ := built
  exact ⟨model, (List.singleton_inj.1 inside).symm⟩

/-- The anchor of the value and the anchor of the initializer, for the shape that the
declaration expects. -/
theorem anchor_climbs_or_stays (built : BuiltLink calls shape link value) :
    value.anchor.parent? = some link.anchor ∧ shape link.anchor = true ∨
      (¬ ∃ parent, value.anchor.parent? = some parent ∧ shape parent = true) ∧
        link.anchor = value.anchor := by
  obtain ⟨model, rfl⟩ := built.exists_eq_initializerOf
  rcases Operation.initializerAnchor_climbs_or_stays shape value.anchor with
    ⟨_, isParent, fits, rfl⟩ | ⟨unfit, anchored⟩
  · exact .inl ⟨isParent, fits⟩
  · exact .inr ⟨unfit, anchored⟩

/-- **A link climbs exactly if its shape accepts the parent of the value's anchor**, for every
declaration that can have built it. -/
theorem climbs_iff (built : BuiltLink calls shape link value) :
    value.anchor.parent? = some link.anchor ↔
      ∃ parent, value.anchor.parent? = some parent ∧ shape parent = true := by
  rcases built.anchor_climbs_or_stays with ⟨isParent, fits⟩ | ⟨unfit, anchored⟩
  · exact iff_of_true isParent ⟨_, isParent, fits⟩
  · refine iff_of_false ?_ unfit
    rw [anchored]
    exact fun isParent => Anchor.ne_of_parent? isParent rfl

/-- **One link of a chain.** -/
theorem linkLaw (built : BuiltLink calls shape link value) : LinkLaw calls link value := by
  obtain ⟨model, isLink⟩ := built.exists_eq_initializerOf
  refine ⟨?_, ?_, ?_, ?_, ⟨shape, built⟩, fun _ => climbs_iff, fun noClimb => ?_⟩
  · rw [isLink]; rfl
  · rw [isLink]; rfl
  · rw [isLink]; rfl
  · rw [isLink]; rfl
  · exact (built.anchor_climbs_or_stays.resolve_left fun climbs => noClimb climbs.1).2

end BuiltLink

/-! ### A whole chain -/

/-- Some declaration that built a link of the chain expects the shape of this anchor. -/
def ChainAccepts (calls : List BuildCall) (op : Operation) (anchor : Anchor) : Prop :=
  ∃ link ∈ op.nested, ∃ shape value,
    link.value? = some value ∧ BuiltLink calls shape link value ∧ shape anchor = true

/-- What holds of a chain of initializers from its outermost operation to its end.  Type,
constant and implicit flag are those of the end.  The anchor is some number of steps above
the anchor of the end, at most one for each link, and each anchor on the way was accepted
when a link was built. -/
structure ChainLaw (calls : List BuildCall) (op : Operation) : Prop where
  origin_kind : op.origin.kind ≠ .localInitializer
  type_eq : op.type? = op.origin.type?
  constant_eq : op.constant? = op.origin.constant?
  isImplicit_eq : op.isImplicit = op.origin.isImplicit
  links : ∀ link ∈ op.nested, ∃ value, LinkLaw calls link value
  anchor_above : ∃ steps ≤ op.nested.length,
    op.origin.anchor.above? steps = some op.anchor ∧
      ∀ step < steps, ∃ passed, op.origin.anchor.above? (step + 1) = some passed ∧
        ChainAccepts calls op passed

namespace ChainLaw

variable {calls : List BuildCall} {value : Operation} {e : Envelope}

/-- A chain without a link: its end alone. -/
theorem of_kind_ne {op : Operation} (other : op.kind ≠ .localInitializer) :
    ChainLaw calls op where
  origin_kind := op.origin_kind_ne
  type_eq := by rw [Operation.origin_of_kind_ne other]
  constant_eq := by rw [Operation.origin_of_kind_ne other]
  isImplicit_eq := by rw [Operation.origin_of_kind_ne other]
  links := by simp [Operation.nested_of_kind_ne other]
  anchor_above := by
    refine ⟨0, Nat.zero_le _, ?_, fun step before => absurd before (Nat.not_lt_zero step)⟩
    rw [Operation.origin_of_kind_ne other, Anchor.above?]

/-- What an inner chain accepts is accepted by the chain with one more link. -/
theorem accepts_cons {anchor : Anchor} (accepts : ChainAccepts calls value anchor) :
    ChainAccepts calls (.localInitializer e value) anchor := by
  obtain ⟨link, isLink, rest⟩ := accepts
  exact ⟨link, List.mem_cons_of_mem _ isLink, rest⟩

/-- One more link around a chain. -/
theorem cons {shape : Shape} (built : BuiltLink calls shape (.localInitializer e value) value)
    (inner : ChainLaw calls value) : ChainLaw calls (.localInitializer e value) where
  origin_kind := inner.origin_kind
  type_eq := built.linkLaw.type_eq.trans inner.type_eq
  constant_eq := built.linkLaw.constant_eq.trans inner.constant_eq
  isImplicit_eq := built.linkLaw.isImplicit_eq.trans inner.isImplicit_eq
  links := List.forall_mem_cons.2 ⟨⟨value, built.linkLaw⟩, inner.links⟩
  anchor_above := by
    obtain ⟨steps, few, above, passed⟩ := inner.anchor_above
    rcases built.anchor_climbs_or_stays with ⟨isParent, fits⟩ | ⟨-, anchored⟩
    · -- the link climbs once more, from where the inner chain is anchored
      have further : value.origin.anchor.above? (steps + 1) =
          some (Operation.localInitializer e value).anchor := by
        rw [Anchor.above?, above, Option.bind_some, isParent]
      refine ⟨steps + 1, Nat.succ_le_succ few, further, fun step before => ?_⟩
      rcases Nat.lt_succ_iff_lt_or_eq.1 before with earlier | rfl
      · obtain ⟨anchor, isAbove, accepts⟩ := passed step earlier
        exact ⟨anchor, isAbove, accepts_cons accepts⟩
      · exact ⟨_, further, _, List.mem_cons_self, shape, value, rfl, built, fits⟩
    · refine ⟨steps, Nat.le_succ_of_le few, above.trans (congrArg some anchored.symm), ?_⟩
      intro step before
      obtain ⟨anchor, isAbove, accepts⟩ := passed step before
      exact ⟨anchor, isAbove, accepts_cons accepts⟩

end ChainLaw

/-- **A whole chain**: it suffices that each link was built by a declaration. -/
theorem Operation.chainLaw_of_built {calls : List BuildCall} {op : Operation}
    (built : ∀ link ∈ op.nested, ∀ value, link.value? = some value →
      ∃ shape, BuiltLink calls shape link value) :
    ChainLaw calls op := by
  induction op using induction_on_chain with
  | ends op other => exact .of_kind_ne other
  | link e value inductionHypothesis =>
    obtain ⟨outermost, inner⟩ := List.forall_mem_cons.1 built
    obtain ⟨shape, isBuilt⟩ := outermost value rfl
    exact .cons isBuilt (inductionHypothesis inner)

/-! ### Runs -/

/-- An initializer is made by a declaration only. -/
theorem BuildCall.exists_declare_of_mem_made {call : BuildCall} {e : Envelope}
    {value : Operation} (made : .localInitializer e value ∈ call.made) :
    ∃ shape locals model anchor, call = .declare shape locals (some value) model anchor ∧
      .initializerOf shape model value = Operation.localInitializer e value := by
  cases call with
  | declare shape locals initial model anchor =>
    rcases mem_made_declare.1 made with isDeclaration | ⟨initialValue, isInitial, isLink⟩
    · cases isDeclaration
    · obtain rfl : initial = some initialValue := isInitial
      obtain rfl : value = initialValue := (Operation.localInitializer.inj isLink).2
      exact ⟨shape, locals, model, anchor, rfl, isLink.symm⟩
  | assign | assignWith =>
    rcases List.mem_cons.1 made with isStatement | inside
    · cases isStatement
    · cases List.mem_singleton.1 inside
  | conditional | binary | literal | literalInt64 | invalid | invalidEmpty =>
    cases List.mem_singleton.1 made

/-- Of the operations that are no initializers, exactly the literals have a constant. -/
theorem Operation.EnvelopeLaw.constant?_isSome_iff {op : Operation} (law : op.EnvelopeLaw)
    (other : op.kind ≠ .localInitializer) :
    op.constant?.isSome ↔ op.kind = .literalExpression := by
  have absent {op : Operation} (without : op.constant? = none)
      (noLiteral : op.kind ≠ .literalExpression) :
      op.constant?.isSome ↔ op.kind = .literalExpression :=
    iff_of_false (by simp [without]) noLiteral
  cases op with
  | localInitializer => exact absurd rfl other
  | literalExpression e =>
    obtain ⟨value, has⟩ := law
    exact iff_of_true (Option.isSome_of_eq_some has) rfl
  | variableDeclaration | expressionStatement => exact absent law.1.2 nofun
  | simpleAssignmentExpression | invalidExpression => exact absent law.2 nofun
  | conditionalExpression => exact absent law nofun
  | compoundAssignmentExpression => exact absent law.2.1 nofun
  | binaryOperatorExpression => exact absent law.1 nofun

namespace BuildRun

variable {calls : List BuildCall} {call : BuildCall} {node : Operation}

/-- Every initializer in the results of a run was built by one of its declarations. -/
theorem exists_builtLink (run : BuildRun calls) (called : call ∈ calls) {e : Envelope}
    {value : Operation} (inside : .localInitializer e value ∈ call.result.preorder) :
    ∃ shape, BuiltLink calls shape (.localInitializer e value) value := by
  obtain ⟨maker, wasCalled, makes⟩ := run.exists_maker called inside
  obtain ⟨shape, locals, model, anchor, rfl, isLink⟩ :=
    BuildCall.exists_declare_of_mem_made makes
  refine ⟨shape, locals, model, anchor, wasCalled, ?_⟩
  rw [← isLink]
  rfl

/-- Every chain in the results of a run keeps the law of chains. -/
theorem chainLaw (run : BuildRun calls) (called : call ∈ calls)
    (inside : node ∈ call.result.preorder) : ChainLaw calls node := by
  refine Operation.chainLaw_of_built fun link isLink value isValue => ?_
  obtain ⟨e, value', rfl⟩ := Operation.exists_value_of_mem_nested isLink
  obtain rfl : value' = value := Option.some.inj isValue
  exact run.exists_builtLink called
    (Operation.mem_preorder_trans (Operation.mem_preorder_of_mem_nested isLink) inside)

/-- In the results of a run, an operation has a constant exactly if its chain ends in a
literal. -/
theorem constant?_isSome_iff (run : BuildRun calls) (called : call ∈ calls)
    (inside : node ∈ call.result.preorder) :
    node.constant?.isSome ↔ node.origin.kind = .literalExpression := by
  obtain ⟨maker, _, makes⟩ := run.exists_maker called
    (Operation.mem_preorder_trans node.origin_mem_preorder inside)
  rw [(run.chainLaw called inside).constant_eq]
  exact (maker.envelopeLaw_of_mem_made makes).constant?_isSome_iff node.origin_kind_ne

/-- **Chains of initializers.**  In a reachable operation, every initializer starts a chain of
at least one link that keeps the law of chains.  An operation has a constant exactly if it
is a literal, or an initializer whose chain ends in one, and then it has the constant of
that literal. -/
theorem chains_of_initializers (run : BuildRun calls) (called : call ∈ calls) {op : Operation}
    (taken : op ∈ call.result.preorder) :
    ∀ node ∈ op.preorder,
      (node.kind = .localInitializer → 1 ≤ node.nested.length ∧ ChainLaw calls node) ∧
      (node.constant?.isSome ↔ node.kind = .literalExpression ∨
        node.kind = .localInitializer ∧ node.origin.kind = .literalExpression) ∧
      (node.constant?.isSome → node.constant? = node.origin.constant?) := by
  intro node below
  have inside := Operation.mem_preorder_trans below taken
  have law := run.chainLaw called inside
  refine ⟨fun isInitializer => ⟨?_, law⟩, ?_, fun _ => law.constant_eq⟩
  · exact List.length_pos_iff.2 (Operation.nested_ne_nil isInitializer)
  · rw [run.constant?_isSome_iff called inside]
    by_cases isInitializer : node.kind = .localInitializer
    · simp [isInitializer]
    · simp [isInitializer, Operation.origin_of_kind_ne isInitializer]

end BuildRun

namespace Operation

/-- The chain of three links that leads from the block to the literal: the anchor climbs at
the innermost and at the outermost link. -/
theorem chains_of_initializers_outerInitializer :
    BuildRun nestedCalls ∧ outerInitializer ∈ nestedAssignment.result.preorder ∧
      outerInitializer.nested = [outerInitializer, middleInitializer, innerInitializer] ∧
      outerInitializer.origin = nestedLiteral.result ∧
      ChainLaw nestedCalls outerInitializer ∧
      (outerInitializer.constant?.isSome ↔ outerInitializer.kind = .literalExpression ∨
        outerInitializer.kind = .localInitializer ∧
          outerInitializer.origin.kind = .literalExpression) := by
  have chains := BuildRun.chains_of_initializers buildRun_nestedCalls List.mem_cons_self
    outerInitializer_mem_preorder outerInitializer (self_mem_preorder _)
  exact ⟨buildRun_nestedCalls, outerInitializer_mem_preorder, rfl, rfl, (chains.1 rfl).2,
    chains.2.1⟩

end Operation

end BoundTree
