import BoundTree.Operation.Equality
import BoundTree.Proofs.InitializerChain

/-!
# What the expected shape decides

A declaration is told which shape to expect around its initial value.  Two declarations
that are told different shapes and are given the same otherwise are compared here.

**The shape decides one anchor.**  Everything below the initializer is the initial value,
which is handed on as it is, and everything else was given.  So the two trees agree in
every place, except that the anchors of the two initializers may differ.

**The decision shows.**  An anchor is never equal to one that encloses it, because its chain
is longer.  So an initializer that is anchored on the parent is not equal to one that is
anchored with its value, also where all kinds and spans coincide, and two shapes give equal
declarations exactly if they agree on that parent, or if nothing is asked of them.

## Main definitions

* `Operation.SameButInitializerAnchor` — two declarations agree but for one anchor

## Main statements

* `Operation.initializerAnchor_eq_iff` — when two shapes anchor an initializer alike
* `Operation.shape_decides_initializer_anchor` — what two shapes make of the same arguments
-/

namespace BoundTree

namespace Operation

/-! ### The anchor of an initializer -/

theorem initializerAnchor_of_parent? {value parent : Anchor} (shape : Shape)
    (isParent : value.parent? = some parent) :
    initializerAnchor shape value = if shape parent then parent else value := by
  rw [initializerAnchor, isParent]

/-- Two shapes anchor an initializer alike exactly if they agree on the parent of the value's
anchor, if there is one. -/
theorem initializerAnchor_eq_iff {P Q : Shape} {value : Anchor} :
    initializerAnchor P value = initializerAnchor Q value ↔
      value.parent? = none ∨ ∃ parent, value.parent? = some parent ∧ P parent = Q parent := by
  cases isParent : value.parent? with
  | none => simp [initializerAnchor, isParent]
  | some parent =>
    have apart : parent ≠ value := Anchor.ne_of_parent? isParent
    rw [initializerAnchor_of_parent? P isParent, initializerAnchor_of_parent? Q isParent]
    cases inP : P parent <;> cases inQ : Q parent <;> simp [inP, inQ, apart, apart.symm]

/-! ### Two declarations -/

variable {P Q : Shape} {locals : DeclaredLocals} {initial : Option Operation} {model : Model}
  {anchor : Anchor}

theorem initializerOf_eq_iff {value : Operation} :
    initializerOf P model value = initializerOf Q model value ↔
      initializerAnchor P value.anchor = initializerAnchor Q value.anchor := by
  simp [initializerOf]

/-- Declarations that are given the same are equal exactly if their initializers are anchored
alike. -/
theorem declare_eq_iff :
    declare P locals initial model anchor = declare Q locals initial model anchor ↔
      ∀ value ∈ initial, initializerAnchor P value.anchor = initializerAnchor Q value.anchor := by
  cases initial with
  | none => simp [declare]
  | some value => simp [declare, initializerOf_eq_iff]

/-- Two operations agree in every place on all that they hold, except that the anchors of the
local initializers directly inside may differ. -/
structure SameButInitializerAnchor (op op' : Operation) : Prop where
  contents : AgreeOn content op op'
  anchors : ∀ path, path ≠ [0] →
    (op.at? path).map Operation.anchor = (op'.at? path).map Operation.anchor
  isInitializer : ∀ node, op.at? [0] = some node → node.kind = .localInitializer

/-- Initializers of one value differ in their anchors only, and not below. -/
theorem sameButInitializerAnchor_declare :
    SameButInitializerAnchor (declare P locals initial model anchor)
      (declare Q locals initial model anchor) := by
  cases initial with
  | none => exact ⟨.refl _ _, fun _ _ => rfl, nofun⟩
  | some value =>
    refine ⟨?_, ?_, ?_⟩
    · have inside : AgreeOn content (initializerOf P model value) (initializerOf Q model value) :=
        agreeOn_iff.2 ⟨rfl, fun _ _ => rfl⟩
      exact agreeOn_iff.2 ⟨rfl, agreeOnAll_cons_iff.2 ⟨inside, agreeOnAll_nil⟩⟩
    · intro path elsewhere
      match path with
      | [] => rfl
      | [0] => exact absurd rfl elsewhere
      | 0 :: position :: path => rfl
      | (_ + 1) :: _ => rfl
    · intro node found
      obtain rfl := Option.some.inj found
      rfl

/-- **The shape decides one anchor, and the decision shows.**  Declarations that are given the
same and expect different shapes agree in every place on all that they hold, except that the
anchors of their initializers may differ.  They are equal exactly if there is no initial
value, or its anchor has no parent, or the shapes agree on that parent.  For no element is
equal to one that encloses it, so that climbing to the parent and staying with the value
always differ. -/
theorem shape_decides_initializer_anchor (P Q : Shape) (locals : DeclaredLocals)
    (initial : Option Operation) (model : Model) (anchor : Anchor) :
    SameButInitializerAnchor (declare P locals initial model anchor)
        (declare Q locals initial model anchor) ∧
      (same (declare P locals initial model anchor) (declare Q locals initial model anchor) ↔
        initial = none ∨ ∃ value, initial = some value ∧
          (value.anchor.parent? = none ∨
            ∃ parent, value.anchor.parent? = some parent ∧ P parent = Q parent)) ∧
      (∀ (element ancestor : Anchor) (steps : Nat),
        element.above? (steps + 1) = some ancestor → ancestor ≠ element) ∧
      ∀ value parent : Anchor, value.parent? = some parent →
        ∀ climbs stays : Shape, climbs parent = true → stays parent = false →
          initializerAnchor climbs value = parent ∧ initializerAnchor stays value = value ∧
            initializerAnchor climbs value ≠ initializerAnchor stays value := by
  refine ⟨sameButInitializerAnchor_declare, ?_, fun _ _ _ => Anchor.ne_of_above?, ?_⟩
  · rw [same_iff, declare_eq_iff]
    cases initial with
    | none => simp
    | some value => simp [initializerAnchor_eq_iff]
  · intro value parent isParent climbs stays accepts refuses
    have climbed : initializerAnchor climbs value = parent := by
      rw [initializerAnchor_of_parent? climbs isParent, if_pos accepts]
    have stayed : initializerAnchor stays value = value := by
      rw [initializerAnchor_of_parent? stays isParent, refuses]
      rfl
    refine ⟨climbed, stayed, ?_⟩
    rw [climbed, stayed]
    exact Anchor.ne_of_parent? isParent

/-- A clause that is the whole of another clause, so that kind and span of the two coincide. -/
def doubledClause : Anchor :=
  .child (.root "equals_value_clause" ⟨6, 9⟩) "equals_value_clause" ⟨6, 9⟩

/-- The declaration of a local whose initial value stands at the inner clause. -/
def declareDoubled (shape : Shape) : Operation :=
  declare shape (.single ⟨"x", .int64, false⟩)
    (some (literalInt64 1 (some .int64) ⟨0, "a"⟩ doubledClause false)) ⟨1, "b"⟩
    (.root "declarator" ⟨4, 9⟩)

/-- Climbing and staying differ although kind and span coincide. -/
theorem shape_decides_initializer_anchor_doubledClause :
    doubledClause.parent?.map Anchor.kind = some doubledClause.kind ∧
      doubledClause.parent?.map Anchor.span = some doubledClause.span ∧
      ¬ same (declareDoubled .equalsValue) (declareDoubled .never) ∧
      initializerAnchor .equalsValue doubledClause ≠ initializerAnchor .never doubledClause := by
  obtain ⟨-, equality, -, climbing⟩ := shape_decides_initializer_anchor .equalsValue .never
    (.single ⟨"x", .int64, false⟩)
    (some (literalInt64 1 (some .int64) ⟨0, "a"⟩ doubledClause false)) ⟨1, "b"⟩
    (.root "declarator" ⟨4, 9⟩)
  refine ⟨rfl, rfl, fun alike => ?_, ?_⟩
  · rcases equality.1 alike with noValue | ⟨value, isValue, decided⟩
    · cases noValue
    · obtain rfl := Option.some.inj isValue
      rcases decided with noParent | ⟨parent, isParent, agree⟩
      · cases noParent
      · obtain rfl := Option.some.inj isParent
        exact absurd agree (by decide)
  · exact (climbing doubledClause _ rfl .equalsValue .never (by decide) rfl).2.2

end Operation

end BoundTree
