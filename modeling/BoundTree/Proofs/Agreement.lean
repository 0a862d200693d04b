import BoundTree.Operation.Basic

/-!
# Agreement of trees

Two trees are compared place by place: whether the same paths lead anywhere, and whether
the operations that they lead to have the same attribute.

**Nothing is hidden between the places.**  An operation is made of its anchor, of what else
it holds itself, and of its children.  So two trees that agree everywhere on the anchor and
on the rest are the same tree.

**An anchor is its chain.**  An anchor lists the kinds and spans of the elements that enclose
it, itself included, and it is the only one with this list.

## Main definitions

* `Operation.AgreeOn` — two trees have one shape and agree on an attribute everywhere
* `Content`, `Operation.content` — what an operation holds besides its anchor and its children
* `Anchor.chain` — kind and span of an element and of all that enclose it

## Main statements

* `Operation.eq_of_agreeOn` — an attribute that determines an operation together with its
  children determines the tree
* `Operation.eq_iff_agreeOn` — two trees are equal exactly if they agree everywhere on what
  they hold
-/

namespace BoundTree

namespace Operation

section Agreement

variable {α : Type} {f : Operation → α} {op op' : Operation} {ops ops' : List Operation}

/-- Two trees have the same shape, and each two operations that stand in the same place
have the same attribute. -/
def AgreeOn (f : Operation → α) (op op' : Operation) : Prop :=
  ∀ path, (op.at? path).map f = (op'.at? path).map f

/-- Two lists of trees agree tree by tree. -/
def AgreeOnAll (f : Operation → α) (ops ops' : List Operation) : Prop :=
  ∀ (position : Nat) (path : List Nat),
    (ops[position]?.bind fun op : Operation => op.at? path).map f =
      (ops'[position]?.bind fun op : Operation => op.at? path).map f

/-- Trees agree if their roots do and their children do one by one. -/
theorem agreeOn_iff :
    AgreeOn f op op' ↔ f op = f op' ∧ AgreeOnAll f op.children op'.children := by
  constructor
  · intro agree
    exact ⟨Option.some.inj (agree []), fun position path => agree (position :: path)⟩
  · rintro ⟨same, below⟩ path
    cases path with
    | nil => exact congrArg some same
    | cons position path => exact below position path

theorem agreeOnAll_nil : AgreeOnAll f [] [] :=
  fun _ _ => rfl

/-- Lists of trees agree if the first trees do and the others do. -/
theorem agreeOnAll_cons_iff :
    AgreeOnAll f (op :: ops) (op' :: ops') ↔ AgreeOn f op op' ∧ AgreeOnAll f ops ops' := by
  constructor
  · intro agree
    exact ⟨fun path => agree 0 path, fun position path => agree (position + 1) path⟩
  · rintro ⟨first, others⟩ position path
    cases position with
    | zero => exact first path
    | succ position => exact others position path

theorem not_agreeOnAll_nil_cons : ¬ AgreeOnAll f [] (op :: ops) :=
  fun agree => absurd (agree 0 []) (Option.some_ne_none (f op)).symm

theorem not_agreeOnAll_cons_nil : ¬ AgreeOnAll f (op :: ops) [] :=
  fun agree => absurd (agree 0 []) (Option.some_ne_none (f op))

/-- A tree agrees with itself. -/
theorem AgreeOn.refl (f : Operation → α) (op : Operation) : AgreeOn f op op :=
  fun _ => rfl

/-- Two attributes on which trees agree are one attribute on which they agree. -/
theorem AgreeOn.pair {β : Type} {g : Operation → β} (first : AgreeOn f op op')
    (second : AgreeOn g op op') : AgreeOn (fun node => (f node, g node)) op op' := by
  intro path
  have inFirst := first path
  have inSecond := second path
  cases found : op.at? path with
  | none =>
    rw [found] at inFirst
    rw [Option.map_none, Option.map_eq_none_iff.1 inFirst.symm, Option.map_none]
  | some node =>
    rw [found] at inFirst inSecond
    obtain ⟨node', found', sameFirst⟩ := Option.map_eq_some_iff.1 inFirst.symm
    rw [found'] at inSecond
    have sameSecond : g node = g node' := Option.some.inj inSecond
    rw [found', Option.map_some, Option.map_some, sameFirst, sameSecond]

/-- Trees that agree tree by tree are the same when agreement of each tree means so. -/
theorem eq_of_agreeOnAll (each : ∀ op ∈ ops, ∀ op', AgreeOn f op op' → op = op')
    (agree : AgreeOnAll f ops ops') : ops = ops' := by
  induction ops generalizing ops' with
  | nil =>
    cases ops' with
    | nil => rfl
    | cons op' ops' => exact absurd agree not_agreeOnAll_nil_cons
  | cons op ops inductionHypothesis =>
    cases ops' with
    | nil => exact absurd agree not_agreeOnAll_cons_nil
    | cons op' ops' =>
      obtain ⟨first, others⟩ := agreeOnAll_cons_iff.1 agree
      obtain ⟨eachFirst, eachOther⟩ := List.forall_mem_cons.1 each
      rw [eachFirst op' first, inductionHypothesis eachOther others]

/-- **An attribute that determines an operation together with its children determines the
tree** when it is known in every place. -/
theorem eq_of_agreeOn
    (determines : ∀ op op', f op = f op' → op.children = op'.children → op = op')
    (agree : AgreeOn f op op') : op = op' := by
  induction op using induction_on_children generalizing op' with
  | step op inductionHypothesis =>
    obtain ⟨same, below⟩ := agreeOn_iff.1 agree
    have sameChildren : op.children = op'.children :=
      eq_of_agreeOnAll (fun child isChild _ => inductionHypothesis child isChild) below
    exact determines op op' same sameChildren

end Agreement

/-! ### What an operation holds itself -/

/-- The locals that an operation declares, if it is a declaration. -/
def locals? : Operation → Option DeclaredLocals
  | variableDeclaration _ locals _ => some locals
  | _ => none

/-- The operator that an operation applies, with its flags and its method. -/
def use? : Operation → Option OperatorUse
  | compoundAssignmentExpression _ use _ _ => some use
  | binaryOperatorExpression _ use _ _ _ => some use
  | _ => none

/-- Whether strings are compared as text, if the operation has that flag. -/
def isCompareText? : Operation → Option Bool
  | binaryOperatorExpression _ _ isCompareText _ _ => some isCompareText
  | _ => none

end Operation

/-- What an operation holds besides its anchor and its children. -/
structure Content where
  kind : OperationKind
  model : Model
  type? : Option Ty
  constant? : Option ConstantValue
  isImplicit : Bool
  locals? : Option DeclaredLocals
  use? : Option OperatorUse
  isCompareText? : Option Bool

namespace Operation

/-- What an operation holds besides its anchor and its children. -/
def content (op : Operation) : Content where
  kind := op.kind
  model := op.model
  type? := op.type?
  constant? := op.constant?
  isImplicit := op.isImplicit
  locals? := op.locals?
  use? := op.use?
  isCompareText? := op.isCompareText?

variable {op op' : Operation}

/-- Contents and anchor make up the envelope. -/
theorem envelope_eq_of_content_eq (sameContent : op.content = op'.content)
    (sameAnchor : op.anchor = op'.anchor) : op.envelope = op'.envelope := by
  have sameModel : op.model = op'.model := congrArg Content.model sameContent
  have sameType : op.type? = op'.type? := congrArg Content.type? sameContent
  have sameConstant : op.constant? = op'.constant? := congrArg Content.constant? sameContent
  have sameFlag : op.isImplicit = op'.isImplicit := congrArg Content.isImplicit sameContent
  exact Envelope.ext sameModel sameAnchor sameType sameConstant sameFlag

/-- **An operation is made of its anchor, of what else it holds and of its children.** -/
theorem eq_of_content_eq (sameContent : op.content = op'.content)
    (sameAnchor : op.anchor = op'.anchor) (sameChildren : op.children = op'.children) :
    op = op' := by
  have sameKind : op.kind = op'.kind := congrArg Content.kind sameContent
  have sameEnvelope := envelope_eq_of_content_eq sameContent sameAnchor
  have sameLocals : op.locals? = op'.locals? := congrArg Content.locals? sameContent
  have sameUse : op.use? = op'.use? := congrArg Content.use? sameContent
  have sameFlag : op.isCompareText? = op'.isCompareText? :=
    congrArg Content.isCompareText? sameContent
  -- only operations of one variant are left, and what they hold is equal field by field
  cases op <;> cases op' <;> cases sameKind <;> cases sameEnvelope
  case variableDeclaration.variableDeclaration initializer _ initializer' =>
    cases sameLocals
    cases initializer <;> cases initializer' <;> cases sameChildren <;> rfl
  case localInitializer.localInitializer => cases sameChildren; rfl
  case conditionalExpression.conditionalExpression => cases sameChildren; rfl
  case expressionStatement.expressionStatement => cases sameChildren; rfl
  case simpleAssignmentExpression.simpleAssignmentExpression => cases sameChildren; rfl
  case compoundAssignmentExpression.compoundAssignmentExpression =>
    cases sameUse; cases sameChildren; rfl
  case literalExpression.literalExpression => rfl
  case binaryOperatorExpression.binaryOperatorExpression =>
    cases sameUse; cases sameFlag; cases sameChildren; rfl
  case invalidExpression.invalidExpression => cases sameChildren; rfl

end Operation

/-! ### Anchors as chains -/

namespace Anchor

/-- Kind and span of an element and of all that enclose it, from the inside outwards. -/
def chain : Anchor → List (String × Span)
  | root kind span => [(kind, span)]
  | child parent kind span => (kind, span) :: parent.chain

theorem chain_ne_nil (anchor : Anchor) : anchor.chain ≠ [] := by
  cases anchor <;> exact List.cons_ne_nil _ _

/-- **An anchor is its chain.** -/
theorem chain_injective {anchor anchor' : Anchor} (same : anchor.chain = anchor'.chain) :
    anchor = anchor' := by
  induction anchor generalizing anchor' with
  | root kind span =>
    cases anchor' with
    | root kind' span' => cases same; rfl
    | child parent' kind' span' => exact absurd (List.cons.inj same).2.symm parent'.chain_ne_nil
  | child parent kind span inductionHypothesis =>
    cases anchor' with
    | root kind' span' => exact absurd (List.cons.inj same).2 parent.chain_ne_nil
    | child parent' kind' span' =>
      obtain ⟨sameElement, above⟩ := List.cons.inj same
      cases sameElement
      rw [inductionHypothesis above]

end Anchor

namespace Operation

/-- **Two trees are equal exactly if they agree everywhere** on the chains of their anchors
and on what else they hold. -/
theorem eq_iff_agreeOn {op op' : Operation} :
    op = op' ↔ AgreeOn content op op' ∧ AgreeOn (fun node => node.anchor.chain) op op' := by
  constructor
  · rintro rfl
    exact ⟨.refl _ _, .refl _ _⟩
  · rintro ⟨contents, chains⟩
    refine eq_of_agreeOn (fun node node' same sameChildren => ?_) (contents.pair chains)
    obtain ⟨sameContent, sameChain⟩ := Prod.mk.inj same
    exact eq_of_content_eq sameContent (Anchor.chain_injective sameChain) sameChildren

end Operation

end BoundTree
