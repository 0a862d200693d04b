/-!
# Equality classes of a list

Two views of the equality classes among the items of a list: for each item the
position of the first one equal to it, and the items that a hash set of them keeps.

**A hash set compares digests first.**  An item is dropped when an item kept before
has the same digest and is equal to it.  When equal items have equal digests,
exactly one item of each class is kept.

## Main definitions

* `firstEqual` — the position of the first equal item, for each item
* `keepDistinct` — the items that a hash set keeps
* `EqualityClasses` — both views as numbers
-/

namespace BoundTree

variable {α β : Type} [DecidableEq α] [DecidableEq β]

/-- The position of the first item equal to each item of a list. -/
def firstEqual (items : List α) : List Nat :=
  items.map fun item => items.findIdx (· == item)

/-- The items that a hash set keeps when it is given a list of items in order. -/
def keepDistinct (digest : α → β) (items : List α) : List α :=
  items.foldl
    (fun kept item =>
      if kept.any (fun old => digest old == digest item && old == item) then kept
      else kept ++ [item])
    []

/-- The equality classes among the items of a list. -/
structure EqualityClasses where
  /-- The position of the first item equal to each item. -/
  firstEqual : List Nat
  /-- The number of items that a hash set keeps. -/
  distinct : Nat
  deriving DecidableEq

/-- The equality classes of a list, found by a digest and equality. -/
def EqualityClasses.of (digest : α → β) (items : List α) : EqualityClasses :=
  ⟨BoundTree.firstEqual items, (keepDistinct digest items).length⟩

end BoundTree
