import BoundTree.Feed
import BoundTree.Proofs.Agreement
import Mathlib.Data.List.Basic

/-!
# What is fed determines the item

Constants, anchors and operations feed their parts one after the other and put nothing
between them.  Still a sequence tells where each part ends: every choice and every list is
announced, by a tag or by a length, before what depends on it.

**The sequence of an item determines it**, whatever follows.  Nothing that equality looks at
is left out, and items that differ feed different sequences, however their parts are put
together.  For a tree this goes by induction: the tag of the variant tells how many children
there are or announces their number, and each child shows where it ends.

## Main definitions

* `FeedItem.EndsItself` — an item is known from its sequence, whatever follows
* `FeedItem.IsPrefixFree` — this holds of all items

## Main statements

* `ConstantValue.isPrefixFree_feed` — constants are known from what they feed
* `Operation.isPrefixFree_feed` — so are operations
-/

namespace BoundTree

namespace FeedItem

variable {α : Type} {feed : α → List FeedItem} {rest rest' : List FeedItem}

/-- In front of whatever follows, the item is known from its sequence, and so is where that
ends. -/
def EndsItself (feed : α → List FeedItem) (a : α) : Prop :=
  ∀ b rest rest', feed a ++ rest = feed b ++ rest' → a = b ∧ rest = rest'

/-- Every item is known from its sequence, whatever follows. -/
def IsPrefixFree (feed : α → List FeedItem) : Prop :=
  ∀ a, EndsItself feed a

/-- With nothing behind it, the sequence determines the item. -/
theorem IsPrefixFree.injective (prefixFree : IsPrefixFree feed) : Function.Injective feed := by
  intro a b same
  exact (prefixFree a b [] [] (congrArg (· ++ []) same)).1

/-- A sequence of one value determines the item if the value does. -/
theorem isPrefixFree_singleton {value : α → FeedItem} (injective : Function.Injective value) :
    IsPrefixFree fun a => [value a] := by
  intro a b rest rest' same
  obtain ⟨values, rests⟩ := List.cons.inj same
  exact ⟨injective values, rests⟩

theorem word_natCast_inj {m n : Nat} (same : word m = word n) : m = n :=
  Int.ofNat.inj (FeedItem.word.inj same)

/-- The place among all choices tells which choice it is. -/
theorem isPrefixFree_place [DecidableEq α] {all : List α} (complete : ∀ a, a ∈ all) :
    IsPrefixFree fun a => [word (all.idxOf a : Nat)] :=
  isPrefixFree_singleton fun a _ same =>
    (List.idxOf_inj (complete a)).1 (word_natCast_inj same)

theorem isPrefixFree_ofBool : IsPrefixFree ofBool := by
  refine isPrefixFree_singleton fun flag flag' same => ?_
  cases flag <;> cases flag' <;> simp_all

/-- An optional item ends itself if the item does: the tag tells whether there is one. -/
theorem endsItself_ofOption {value : Option α} (each : ∀ a ∈ value, EndsItself feed a) :
    EndsItself (ofOption feed) value := by
  intro value' rest rest' same
  cases value with
  | none =>
    cases value' with
    | none => exact ⟨rfl, (List.cons.inj same).2⟩
    | some b => exact absurd (FeedItem.word.inj (List.cons.inj same).1) (by decide)
  | some a =>
    cases value' with
    | none => exact absurd (FeedItem.word.inj (List.cons.inj same).1) (by decide)
    | some b =>
      obtain ⟨rfl, rests⟩ := each a rfl b _ _ (List.cons.inj same).2
      exact ⟨rfl, rests⟩

theorem IsPrefixFree.ofOption (prefixFree : IsPrefixFree feed) :
    IsPrefixFree (FeedItem.ofOption feed) :=
  fun _ => endsItself_ofOption fun a _ => prefixFree a

/-- Items of known number end themselves together when each of them does. -/
theorem flatMap_append_inj {as bs : List α} (each : ∀ a ∈ as, EndsItself feed a)
    (same : as.flatMap feed ++ rest = bs.flatMap feed ++ rest')
    (sameCount : as.length = bs.length) : as = bs ∧ rest = rest' := by
  induction as generalizing bs with
  | nil =>
    obtain rfl := List.length_eq_zero_iff.1 sameCount.symm
    exact ⟨rfl, same⟩
  | cons a as inductionHypothesis =>
    obtain ⟨first, others⟩ := List.forall_mem_cons.1 each
    cases bs with
    | nil => cases sameCount
    | cons b bs =>
      rw [List.flatMap_cons, List.flatMap_cons, List.append_assoc, List.append_assoc] at same
      obtain ⟨rfl, behind⟩ := first b _ _ same
      obtain ⟨rfl, rests⟩ := inductionHypothesis others behind (Nat.succ.inj sameCount)
      exact ⟨rfl, rests⟩

/-- A list is known from its sequence: its length tells how many items follow. -/
theorem IsPrefixFree.ofList (prefixFree : IsPrefixFree feed) :
    IsPrefixFree (FeedItem.ofList feed) := by
  intro as bs rest rest' same
  obtain ⟨lengths, items⟩ := List.cons.inj same
  exact flatMap_append_inj (fun a _ => prefixFree a) items (word_natCast_inj lengths)

end FeedItem

open FeedItem

/-! ### Constants -/

namespace ConstantValue

/-- The tags of the integers lie below those of the other numbers. -/
theorem idxOf_integralKind_lt (kind : IntegralKind) : IntegralKind.all.idxOf kind < 8 := by
  cases kind <;> decide

/-- **Constants are known from what they feed.**  The tag tells the representation, and each
representation ends itself. -/
theorem isPrefixFree_feed : IsPrefixFree feed := by
  intro a b rest rest' same
  obtain ⟨tags, values⟩ := List.cons.inj same
  have sameTag : a.tag = b.tag := word_natCast_inj tags
  cases a <;> cases b
  case null.null => exact ⟨rfl, values⟩
  case boolean.boolean flag flag' =>
    obtain ⟨rfl, rests⟩ := isPrefixFree_ofBool flag flag' _ _ values
    exact ⟨rfl, rests⟩
  case char.char c c' =>
    obtain ⟨numbers, rests⟩ := List.cons.inj values
    exact ⟨congrArg char (Char.toNat_inj.1 (word_natCast_inj numbers)), rests⟩
  case integral.integral n n' =>
    obtain ⟨numbers, rests⟩ := List.cons.inj values
    have sameKind : n.kind = n'.kind := by
      have complete : ∀ kind, kind ∈ IntegralKind.all := by
        intro kind
        cases kind <;> decide
      exact (List.idxOf_inj (complete n.kind)).1 (Nat.add_left_cancel sameTag)
    exact ⟨congrArg integral (Integral.ext sameKind (FeedItem.word.inj numbers)), rests⟩
  case single.single bits bits' =>
    obtain ⟨numbers, rests⟩ := List.cons.inj values
    exact ⟨congrArg single (UInt32.toNat_inj.1 (word_natCast_inj numbers)), rests⟩
  case double.double bits bits' =>
    obtain ⟨numbers, rests⟩ := List.cons.inj values
    exact ⟨congrArg double (UInt64.toNat_inj.1 (word_natCast_inj numbers)), rests⟩
  case decimal.decimal d d' =>
    obtain ⟨mantissas, behind⟩ := List.cons.inj values
    obtain ⟨scales, rests⟩ := List.cons.inj behind
    have sameDecimal : d = d' := Decimal.ext (FeedItem.word.inj mantissas) (word_natCast_inj scales)
    exact ⟨congrArg decimal sameDecimal, rests⟩
  case string.string text text' =>
    obtain ⟨texts, rests⟩ := List.cons.inj values
    exact ⟨congrArg string (FeedItem.text.inj texts), rests⟩
  -- constants of two variants have different tags
  all_goals grind [tag, idxOf_integralKind_lt]

end ConstantValue

/-! ### Anchors -/

/-- A span is known from its two ends. -/
theorem Span.isPrefixFree_feed : IsPrefixFree Span.feed := by
  intro span span' rest rest' same
  obtain ⟨starts, behind⟩ := List.cons.inj same
  obtain ⟨stops, rests⟩ := List.cons.inj behind
  have sameStart := UInt64.toNat_inj.1 (word_natCast_inj starts)
  have sameStop := UInt64.toNat_inj.1 (word_natCast_inj stops)
  exact ⟨Span.ext sameStart sameStop, rests⟩

namespace Anchor

/-- An anchor feeds what an element feeds and then its parent, if there is one. -/
theorem feed_eq (anchor : Anchor) : anchor.feed =
    .text anchor.kind :: (anchor.span.feed ++ ofOption feed anchor.parent?) := by
  cases anchor <;> rfl

theorem eq_of_parts {anchor anchor' : Anchor} (sameKind : anchor.kind = anchor'.kind)
    (sameSpan : anchor.span = anchor'.span) (sameParent : anchor.parent? = anchor'.parent?) :
    anchor = anchor' := by
  cases anchor <;> cases anchor' <;> cases sameKind <;> cases sameSpan <;> cases sameParent <;> rfl

/-- An element ends itself when the one that encloses it does. -/
theorem endsItself_of_parent? {anchor : Anchor}
    (above : ∀ parent ∈ anchor.parent?, EndsItself feed parent) : EndsItself feed anchor := by
  intro anchor' rest rest' same
  rw [feed_eq anchor, feed_eq anchor', List.cons_append, List.cons_append, List.append_assoc,
    List.append_assoc] at same
  obtain ⟨kinds, behind⟩ := List.cons.inj same
  obtain ⟨sameSpan, behind⟩ := Span.isPrefixFree_feed _ _ _ _ behind
  obtain ⟨sameParent, rests⟩ := endsItself_ofOption above _ _ _ behind
  exact ⟨eq_of_parts (FeedItem.text.inj kinds) sameSpan sameParent, rests⟩

/-- **Anchors are known from what they feed**, by induction over the chain. -/
theorem isPrefixFree_feed : IsPrefixFree feed := by
  intro anchor
  induction anchor with
  | root kind span => exact endsItself_of_parent? nofun
  | child parent kind span inductionHypothesis =>
    refine endsItself_of_parent? fun parent' isParent => ?_
    obtain rfl := Option.some.inj isParent
    exact inductionHypothesis

end Anchor

/-! ### Envelopes and operators -/

theorem Model.isPrefixFree_feed : IsPrefixFree Model.feed :=
  isPrefixFree_singleton fun _ _ same => Shared.model.inj (FeedItem.handle.inj same)

theorem Ty.isPrefixFree_feed : IsPrefixFree Ty.feed :=
  isPrefixFree_singleton fun _ _ same => Shared.type.inj (FeedItem.handle.inj same)

theorem Local.isPrefixFree_feed : IsPrefixFree Local.feed :=
  isPrefixFree_singleton fun _ _ same => Shared.declared.inj (FeedItem.handle.inj same)

theorem Method.isPrefixFree_feed : IsPrefixFree Method.feed :=
  isPrefixFree_singleton fun _ _ same => Shared.method.inj (FeedItem.handle.inj same)

/-- An operator is known from its place among all operators. -/
theorem BinaryOperator.isPrefixFree_feed : IsPrefixFree BinaryOperator.feed :=
  isPrefixFree_place BinaryOperator.mem_all

/-- Envelopes are known from what they feed, field by field. -/
theorem Envelope.isPrefixFree_feed : IsPrefixFree Envelope.feed := by
  intro e e' rest rest' same
  simp only [Envelope.feed, List.append_assoc] at same
  obtain ⟨sameModel, same⟩ := Model.isPrefixFree_feed _ _ _ _ same
  obtain ⟨sameAnchor, same⟩ := Anchor.isPrefixFree_feed _ _ _ _ same
  obtain ⟨sameType, same⟩ := Ty.isPrefixFree_feed.ofOption _ _ _ _ same
  obtain ⟨sameConstant, same⟩ := ConstantValue.isPrefixFree_feed.ofOption _ _ _ _ same
  obtain ⟨sameFlag, rests⟩ := isPrefixFree_ofBool _ _ _ _ same
  exact ⟨Envelope.ext sameModel sameAnchor sameType sameConstant sameFlag, rests⟩

/-! ### Operations -/

namespace Operation

variable {op op' : Operation} {rest rest' : List FeedItem}

/-- Within a variant, what follows the envelope tells what the variant holds and where it
ends, provided that the children end themselves. -/
theorem variant_append_inj (sameKind : op.kind = op'.kind)
    (each : ∀ child ∈ op.children, EndsItself feed child)
    (same : op.feedAhead ++ (op.children.flatMap feed ++ (op.feedBehind ++ rest)) =
      op'.feedAhead ++ (op'.children.flatMap feed ++ (op'.feedBehind ++ rest'))) :
    (op.locals? = op'.locals? ∧ op.use? = op'.use? ∧ op.isCompareText? = op'.isCompareText?) ∧
      op.children = op'.children ∧ rest = rest' := by
  cases op <;> cases op' <;> cases sameKind <;>
    simp only [feedAhead, feedBehind, List.append_assoc, List.nil_append] at same
  case variableDeclaration.variableDeclaration e locals initializer e' locals' initializer' =>
    obtain ⟨sameLocals, same⟩ := Local.isPrefixFree_feed.ofList _ _ _ _ same
    obtain ⟨sameTag, same⟩ := isPrefixFree_ofBool _ _ _ _ same
    have sameCount : initializer.toList.length = initializer'.toList.length := by
      cases initializer <;> cases initializer' <;> simp_all
    obtain ⟨sameChildren, rests⟩ := flatMap_append_inj each same sameCount
    exact ⟨⟨congrArg some (DeclaredLocals.ext sameLocals), rfl, rfl⟩, sameChildren, rests⟩
  case compoundAssignmentExpression.compoundAssignmentExpression e use t v e' use' t' v' =>
    obtain ⟨sameOperator, same⟩ := BinaryOperator.isPrefixFree_feed _ _ _ _ same
    obtain ⟨sameLifted, same⟩ := isPrefixFree_ofBool _ _ _ _ same
    obtain ⟨sameChecked, same⟩ := isPrefixFree_ofBool _ _ _ _ same
    obtain ⟨sameChildren, same⟩ := flatMap_append_inj each same rfl
    obtain ⟨sameUses, same⟩ := isPrefixFree_ofBool _ _ _ _ same
    obtain ⟨sameMethod, rests⟩ := Method.isPrefixFree_feed.ofOption _ _ _ _ same
    have sameUse := OperatorUse.ext sameOperator sameLifted sameChecked sameUses sameMethod
    exact ⟨⟨rfl, congrArg some sameUse, rfl⟩, sameChildren, rests⟩
  case binaryOperatorExpression.binaryOperatorExpression e use x l r e' use' x' l' r' =>
    obtain ⟨sameOperator, same⟩ := BinaryOperator.isPrefixFree_feed _ _ _ _ same
    obtain ⟨sameChildren, same⟩ := flatMap_append_inj each same rfl
    obtain ⟨sameLifted, same⟩ := isPrefixFree_ofBool _ _ _ _ same
    obtain ⟨sameChecked, same⟩ := isPrefixFree_ofBool _ _ _ _ same
    obtain ⟨sameFlag, same⟩ := isPrefixFree_ofBool _ _ _ _ same
    obtain ⟨sameUses, same⟩ := isPrefixFree_ofBool _ _ _ _ same
    obtain ⟨sameMethod, rests⟩ := Method.isPrefixFree_feed.ofOption _ _ _ _ same
    have sameUse := OperatorUse.ext sameOperator sameLifted sameChecked sameUses sameMethod
    exact ⟨⟨rfl, congrArg some sameUse, congrArg some sameFlag⟩, sameChildren, rests⟩
  case invalidExpression.invalidExpression e salvaged e' salvaged' =>
    obtain ⟨lengths, same⟩ := List.cons.inj same
    obtain ⟨sameChildren, rests⟩ := flatMap_append_inj each same (word_natCast_inj lengths)
    exact ⟨⟨rfl, rfl, rfl⟩, sameChildren, rests⟩
  -- the other variants hold nothing but a fixed number of children
  all_goals
    obtain ⟨sameChildren, rests⟩ := flatMap_append_inj each same rfl
    exact ⟨⟨rfl, rfl, rfl⟩, sameChildren, rests⟩

/-- An operation ends itself when its children do. -/
theorem endsItself_of_children (each : ∀ child ∈ op.children, EndsItself feed child) :
    EndsItself feed op := by
  intro op' rest rest' same
  rw [feed_eq op, feed_eq op'] at same
  simp only [List.cons_append, List.append_assoc] at same
  obtain ⟨tags, same⟩ := List.cons.inj same
  have sameKind : op.kind = op'.kind :=
    (List.idxOf_inj (OperationKind.mem_all op.kind)).1 (word_natCast_inj tags)
  obtain ⟨sameEnvelope, same⟩ := Envelope.isPrefixFree_feed _ _ _ _ same
  obtain ⟨⟨sameLocals, sameUse, sameFlag⟩, sameChildren, rests⟩ :=
    variant_append_inj sameKind each same
  have sameContent : op.content = op'.content := by
    simp only [content, model, type?, constant?, isImplicit, sameKind, sameEnvelope, sameLocals,
      sameUse, sameFlag]
  have sameAnchor : op.anchor = op'.anchor := congrArg Envelope.anchor sameEnvelope
  exact ⟨eq_of_content_eq sameContent sameAnchor sameChildren, rests⟩

/-- **Operations are known from what they feed.** -/
theorem isPrefixFree_feed : IsPrefixFree feed := by
  intro op
  induction op using induction_on_children with
  | step op inductionHypothesis => exact endsItself_of_children inductionHypothesis

end Operation

end BoundTree
