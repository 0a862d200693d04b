import BoundTree.EqualityClasses
import Mathlib.Data.Finset.Card
import Mathlib.Data.Finset.Image

/-!
# What the equality classes of a list depend on

A hash set keeps exactly one item of each class, whatever the digest.  So the classes of a
list say which of its items are equal and nothing else about them: lists whose items are
told apart alike have the same classes.

## Main statements

* `nodup_keepDistinct`, `mem_keepDistinct_iff` — what a hash set keeps
* `EqualityClasses.of_map` — an image that tells the items apart has the same classes
-/

namespace BoundTree

variable {α β γ δ : Type} [DecidableEq α] [DecidableEq β] [DecidableEq γ] [DecidableEq δ]

/-- One more item for a hash set: it is dropped exactly if it is kept already. -/
theorem keepDistinct_append_singleton (digest : α → β) (items : List α) (item : α) :
    keepDistinct digest (items ++ [item]) =
      if item ∈ keepDistinct digest items then keepDistinct digest items
      else keepDistinct digest items ++ [item] := by
  have found : ∀ kept : List α,
      kept.any (fun old => digest old == digest item && old == item) = decide (item ∈ kept) := by
    intro kept
    rw [Bool.eq_iff_iff]
    simp only [List.any_eq_true, Bool.and_eq_true, beq_iff_eq, decide_eq_true_eq]
    constructor
    · rintro ⟨old, mem, -, rfl⟩
      exact mem
    · exact fun mem => ⟨item, mem, rfl, rfl⟩
  rw [keepDistinct, List.foldl_append, ← keepDistinct, List.foldl_cons, List.foldl_nil, found]
  simp only [decide_eq_true_eq]

/-- No item is kept twice. -/
theorem nodup_keepDistinct (digest : α → β) (items : List α) :
    (keepDistinct digest items).Nodup := by
  induction items using List.reverseRecOn with
  | nil => exact List.nodup_nil
  | append_singleton items item inductionHypothesis =>
    rw [keepDistinct_append_singleton]
    split
    case isTrue => exact inductionHypothesis
    case isFalse absent =>
      rw [← List.concat_eq_append]
      exact inductionHypothesis.concat absent

theorem mem_keepDistinct_iff {digest : α → β} {items : List α} {item : α} :
    item ∈ keepDistinct digest items ↔ item ∈ items := by
  induction items using List.reverseRecOn generalizing item with
  | nil => rfl
  | append_singleton items latest inductionHypothesis =>
    rw [keepDistinct_append_singleton]
    split
    case isTrue kept =>
      rw [inductionHypothesis, List.mem_append, List.mem_singleton]
      exact ⟨.inl, fun mem => mem.elim id fun same => same ▸ inductionHypothesis.1 kept⟩
    case isFalse => simp [inductionHypothesis]

/-- As many items are kept as there are different ones. -/
theorem length_keepDistinct (digest : α → β) (items : List α) :
    (keepDistinct digest items).length = items.toFinset.card := by
  have sameItems : (keepDistinct digest items).toFinset = items.toFinset := by
    ext item
    simp [mem_keepDistinct_iff]
  rw [← sameItems, List.toFinset_card_of_nodup (nodup_keepDistinct digest items)]

variable {f : α → γ} {items : List α}

theorem findIdx_map_beq {item : α} (apart : ∀ a ∈ items, f a = f item → a = item) :
    (items.map f).findIdx (· == f item) = items.findIdx (· == item) := by
  induction items with
  | nil => rfl
  | cons first others inductionHypothesis =>
    obtain ⟨apartFirst, apartOthers⟩ := List.forall_mem_cons.1 apart
    rw [List.map_cons, List.findIdx_cons, List.findIdx_cons, inductionHypothesis apartOthers]
    by_cases same : first = item
    · simp [same]
    · rw [beq_eq_false_iff_ne.2 same, beq_eq_false_iff_ne.2 (mt apartFirst same)]

/-- **Items that are told apart alike have the same classes.** -/
theorem EqualityClasses.of_map (apart : ∀ a ∈ items, ∀ b ∈ items, f a = f b → a = b)
    (digest : α → β) (digest' : γ → δ) :
    EqualityClasses.of digest' (items.map f) = EqualityClasses.of digest items := by
  have sameFirst : BoundTree.firstEqual (items.map f) = BoundTree.firstEqual items := by
    rw [BoundTree.firstEqual, List.map_map]
    exact List.map_congr_left fun item mem =>
      findIdx_map_beq fun a ha same => apart a ha item mem same
  have image : (items.map f).toFinset = items.toFinset.image f := by
    ext item
    simp
  have sameCount : (items.map f).toFinset.card = items.toFinset.card := by
    rw [image]
    exact Finset.card_image_of_injOn fun a ha b hb =>
      apart a (List.mem_toFinset.1 ha) b (List.mem_toFinset.1 hb)
  rw [EqualityClasses.of, EqualityClasses.of, sameFirst, length_keepDistinct,
    length_keepDistinct, sameCount]

end BoundTree
