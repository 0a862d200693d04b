import BoundTree.EqualityClasses
import BoundTree.Proofs.UnambiguousFeeds
import Mathlib.Data.List.Induction

/-!
# Equality and hashing of operations

Operations and constants are put into hash sets.  A hash set compares an item only with those
that have its digest, so it relies on two things: that the test for equality is an
equivalence, and that items which pass it feed the same sequence to the hash function.

**Equality looks at everything.**  Two operations pass the test exactly if their trees have one
shape and agree in every place: on the variant and what it holds, and on the whole chain of
the anchor.  Floating-point constants are compared by bit pattern, so a value that is no
number equals itself and the two zeros differ.

**Hashing looks at the same.**  What is equal feeds the same sequence, and what differs feeds
different ones.  So, whatever digest is computed from the sequences, a hash set keeps exactly
one item of each class.

## Main definitions

* `IsLawfulKey` — what a hash set relies on
* `KeepsOnePerClass` — some items represent all items of a list, each class once
* `keepBy` — the items that a hash set with a given test keeps
* `ComparesByBits` — floating-point constants are compared by bit pattern

## Main statements

* `KeepsOnePerClass.skip`, `KeepsOnePerClass.add` — one more item for a hash set
* `IsLawfulKey.keepsOnePerClass` — a hash set of lawful keys keeps one item of each class
* `Operation.equality_and_hashing_are_lawful` — operations and constants are lawful keys
-/

namespace BoundTree

/-! ### Hash sets -/

section HashSets

variable {α β : Type} {test : α → α → Bool} {feed : α → List FeedItem}

/-- What a hash set relies on: the test is an equivalence, and items that pass it feed the
same sequence. -/
structure IsLawfulKey (test : α → α → Bool) (feed : α → List FeedItem) : Prop where
  refl : ∀ a, test a a
  symm : ∀ a b, test a b → test b a
  trans : ∀ a b c, test a b → test b c → test a c
  feed_eq : ∀ a b, test a b → feed a = feed b

/-- Items that pass the test pass it with the same items. -/
theorem IsLawfulKey.test_eq (lawful : IsLawfulKey test feed) {a b : α} (same : test a b) :
    test a = test b := by
  funext c
  rw [Bool.eq_iff_iff]
  exact ⟨lawful.trans b a c (lawful.symm a b same), lawful.trans a b c same⟩

/-- The kept items are some of the given ones, and each given item passes the test with exactly
one of them. -/
structure KeepsOnePerClass (test : α → α → Bool) (items kept : List α) : Prop where
  given : ∀ item ∈ kept, item ∈ items
  once : ∀ item ∈ items, kept.countP (test item) = 1

namespace KeepsOnePerClass

variable {items kept : List α} {item : α}

/-- One more item of a class that is represented needs no new representative. -/
theorem skip (lawful : IsLawfulKey test feed) (keeps : KeepsOnePerClass test items kept)
    {old : α} (isKept : old ∈ kept) (same : test old item) :
    KeepsOnePerClass test (items ++ [item]) kept where
  given known mem := List.mem_append_left _ (keeps.given known mem)
  once known mem := by
    rcases List.mem_append.1 mem with earlier | isLatest
    · exact keeps.once known earlier
    · rw [List.mem_singleton.1 isLatest, ← lawful.test_eq same]
      exact keeps.once old (keeps.given old isKept)

/-- One more item that passes the test with no representative becomes one. -/
theorem add (lawful : IsLawfulKey test feed) (keeps : KeepsOnePerClass test items kept)
    (isNew : ∀ old ∈ kept, ¬ test old item) :
    KeepsOnePerClass test (items ++ [item]) (kept ++ [item]) where
  given known mem := by
    rcases List.mem_append.1 mem with earlier | isLatest
    · exact List.mem_append_left _ (keeps.given known earlier)
    · exact List.mem_append_right _ isLatest
  once known mem := by
    rw [List.countP_append, List.countP_singleton]
    rcases List.mem_append.1 mem with earlier | isLatest
    · -- the representative of an earlier item would also be one of the new item
      have apart : ¬ test known item := by
        intro same
        obtain ⟨old, isKept, sameOld⟩ := List.countP_pos_iff.1
          (Nat.lt_of_lt_of_eq Nat.zero_lt_one (keeps.once known earlier).symm)
        exact isNew old isKept (lawful.trans old known item (lawful.symm known old sameOld) same)
      rw [keeps.once known earlier, if_neg apart]
    · rw [List.mem_singleton.1 isLatest, if_pos (lawful.refl item)]
      have none : kept.countP (test item) = 0 := List.countP_eq_zero.2 fun old isKept same =>
        isNew old isKept (lawful.symm item old same)
      rw [none]

end KeepsOnePerClass

variable [DecidableEq β]

/-- The items that a hash set with a given test keeps when it is given a list of items in
order. -/
def keepBy (test : α → α → Bool) (digest : α → β) (items : List α) : List α :=
  items.foldl
    (fun kept item =>
      if kept.any (fun old => digest old == digest item && test old item) then kept
      else kept ++ [item])
    []

theorem keepDistinct_eq_keepBy [DecidableEq α] (digest : α → β) (items : List α) :
    keepDistinct digest items = keepBy (· == ·) digest items :=
  rfl

/-- **A hash set of lawful keys keeps one item of each class**, whatever digest is computed
from what the items feed. -/
theorem IsLawfulKey.keepsOnePerClass (lawful : IsLawfulKey test feed)
    (hash : List FeedItem → β) (items : List α) :
    KeepsOnePerClass test items (keepBy test (fun item => hash (feed item)) items) := by
  induction items using List.reverseRecOn with
  | nil => exact ⟨fun _ mem => mem, fun _ mem => absurd mem List.not_mem_nil⟩
  | append_singleton items item inductionHypothesis =>
    rw [keepBy, List.foldl_append, ← keepBy, List.foldl_cons, List.foldl_nil]
    split
    case isTrue found =>
      obtain ⟨old, isKept, both⟩ := List.any_eq_true.1 found
      exact inductionHypothesis.skip lawful isKept (Bool.and_eq_true_iff.1 both).2
    case isFalse notFound =>
      refine inductionHypothesis.add lawful fun old isKept same => notFound ?_
      have sameDigest : hash (feed old) = hash (feed item) :=
        congrArg hash (lawful.feed_eq old item same)
      exact List.any_eq_true.2 ⟨old, isKept, Bool.and_eq_true_iff.2 ⟨beq_iff_eq.2 sameDigest, same⟩⟩

end HashSets

/-! ### Constants -/

/-- Floating-point constants of a format are compared by bit pattern.  So a value that is no
number equals itself, with the same pattern, and the two zeros differ. -/
structure ComparesByBits {Bits : Type} (format : FloatFormat) (pattern : Bits → Nat)
    (constant : Bits → ConstantValue) : Prop where
  eq_iff : ∀ x y, (constant x == constant y) = true ↔ pattern x = pattern y
  nan_eq : ∀ x y, format.decode (pattern x) = .nan → pattern x = pattern y →
    (constant x == constant y) = true
  zero_ne : ∀ x y exponent exponent' lowest lowest',
    format.decode (pattern x) = .finite false 0 exponent lowest →
      format.decode (pattern y) = .finite true 0 exponent' lowest' →
        (constant x == constant y) = false

theorem comparesByBits_of_eq_iff {Bits : Type} (format : FloatFormat) {pattern : Bits → Nat}
    {constant : Bits → ConstantValue}
    (eq_iff : ∀ x y, constant x = constant y ↔ pattern x = pattern y) :
    ComparesByBits format pattern constant where
  eq_iff x y := by rw [beq_iff_eq, eq_iff]
  nan_eq x y _ same := by rw [beq_iff_eq, eq_iff, same]
  zero_ne x y _ _ _ _ positive negative := by
    rw [beq_eq_false_iff_ne, Ne, eq_iff]
    intro same
    rw [same, negative] at positive
    cases positive

example : FloatFormat.double.decode 0x7ff8000000000001 = .nan ∧
    (ConstantValue.double 0x7ff8000000000001 == .double 0x7ff8000000000001) = true := by decide

example : FloatFormat.double.decode 0 = .finite false 0 (-1074) false ∧
    FloatFormat.double.decode 0x8000000000000000 = .finite true 0 (-1074) false ∧
    (ConstantValue.double 0 == .double 0x8000000000000000) = false := by decide

/-- A test for equality is lawful with every sequence. -/
theorem isLawfulKey_of_decides {α : Type} {test : α → α → Bool}
    (decides : ∀ a b, test a b ↔ a = b) (feed : α → List FeedItem) : IsLawfulKey test feed where
  refl a := (decides a a).2 rfl
  symm a b same := (decides b a).2 ((decides a b).1 same).symm
  trans a b c first second :=
    (decides a c).2 (((decides a b).1 first).trans ((decides b c).1 second))
  feed_eq a b same := congrArg feed ((decides a b).1 same)

namespace Operation

/-- **Equality looks at everything, and so does hashing.**

* The test for equality of operations is an equivalence, and operations that pass it feed the
  same sequence to a hash function.  They pass it exactly if their trees have one shape and
  agree in every place on the chain of the anchor and on what else the operation holds.
* The same holds of constants, and their floating-point values are compared by bit pattern.
* Operations and constants that differ feed different sequences.
* A hash set of operations or of constants keeps exactly one of each class. -/
theorem equality_and_hashing_are_lawful :
    IsLawfulKey same feed ∧
      (∀ a b, same a b ↔ AgreeOn content a b ∧ AgreeOn (fun node => node.anchor.chain) a b) ∧
      IsLawfulKey (fun c d : ConstantValue => c == d) ConstantValue.feed ∧
      ComparesByBits .single UInt32.toNat .single ∧
      ComparesByBits .double UInt64.toNat .double ∧
      (∀ a b : Operation, a.feed = b.feed → same a b) ∧
      (∀ c d : ConstantValue, c.feed = d.feed → (c == d) = true) ∧
      ∀ (β : Type) [DecidableEq β] (hash : List FeedItem → β),
        (∀ ops : List Operation,
          KeepsOnePerClass same ops (keepDistinct (fun op => hash op.feed) ops)) ∧
        ∀ constants : List ConstantValue,
          KeepsOnePerClass (fun c d => c == d) constants
            (keepDistinct (fun c => hash c.feed) constants) := by
  have lawful : IsLawfulKey same feed := isLawfulKey_of_decides same_iff feed
  have lawfulConstant : IsLawfulKey (fun c d : ConstantValue => c == d) ConstantValue.feed :=
    isLawfulKey_of_decides (fun _ _ => beq_iff_eq) ConstantValue.feed
  refine ⟨lawful, ?_, lawfulConstant, ?_, ?_, ?_, ?_, fun β _ hash => ⟨?_, ?_⟩⟩
  · intro a b
    rw [same_iff, eq_iff_agreeOn]
  · refine comparesByBits_of_eq_iff .single fun x y => ?_
    rw [ConstantValue.single.injEq, UInt32.toNat_inj]
  · refine comparesByBits_of_eq_iff .double fun x y => ?_
    rw [ConstantValue.double.injEq, UInt64.toNat_inj]
  · intro a b sameFeed
    exact (same_iff a b).2 (isPrefixFree_feed.injective sameFeed)
  · intro c d sameFeed
    exact beq_iff_eq.2 (ConstantValue.isPrefixFree_feed.injective sameFeed)
  · intro ops
    have sameTest : (fun a b : Operation => a == b) = same := by
      funext a b
      rw [Bool.eq_iff_iff, beq_iff_eq, same_iff]
    rw [keepDistinct_eq_keepBy, sameTest]
    exact lawful.keepsOnePerClass hash ops
  · intro constants
    exact lawfulConstant.keepsOnePerClass hash constants

end Operation

end BoundTree
