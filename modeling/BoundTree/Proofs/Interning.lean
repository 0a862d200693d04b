import BoundTree.InternTable

/-!
# Interners

After interning, a key leads to what it led to before, unless it is the key that was handed
out, which leads to the item.

A table that searches its items from the oldest on and stores new ones at the end is a lawful
interner.

## Main statements

* `Interner.IsLawful.eq_or_item?_eq_of_intern` — what a key leads to after interning
* `InternTable.isLawful_interner` — tables are lawful interners
-/

namespace BoundTree

namespace Interner

variable {State Key Item : Type} {interner : Interner State Key Item}

namespace IsLawful

variable (lawful : interner.IsLawful)

include lawful

/-- What a key leads to after interning: to the item if it is the key that was handed out,
and to what it led to before otherwise. -/
theorem eq_or_item?_eq_of_intern {state : State} {new item : Item} {key : Key}
    (stored : interner.item? (interner.intern state new).2 key = some item) :
    (key = (interner.intern state new).1 ∧ item = new) ∨
      interner.item? state key = some item := by
  by_cases handedOut : key = (interner.intern state new).1
  · subst handedOut
    exact .inl ⟨rfl, Option.some.inj (stored.symm.trans (lawful.item?_intern state new))⟩
  · exact .inr ((lawful.item?_of_ne state new key handedOut).symm.trans stored)

end IsLawful

end Interner

namespace InternTable

variable {α : Type} {table : InternTable α} {key : Nat} {item new : α}

/-- An item at the end is stored under no other key. -/
theorem get?_append_of_ne (other : key ≠ table.items.length) :
    get? ⟨table.items ++ [new]⟩ key = table.get? key := by
  rcases Nat.lt_or_gt_of_ne other with before | behind
  · exact List.getElem?_append_left before
  · rw [get?, get?, List.getElem?_eq_none (Nat.le_of_lt behind), List.getElem?_eq_none]
    rw [List.length_append, List.length_singleton]
    exact behind

variable [DecidableEq α]

/-- The key that is handed out for an item leads to the item. -/
theorem get?_intern (table : InternTable α) (item : α) :
    (table.intern item).2.get? (table.intern item).1 = some item := by
  unfold intern internBy
  split
  case h_1 key found =>
    obtain ⟨inside, same, -⟩ := List.findIdx?_eq_some_iff_getElem.1 found
    rw [get?, List.getElem?_eq_getElem inside, beq_iff_eq.1 same]
  case h_2 => exact List.getElem?_concat_length

/-- Nothing is stored for an item that is there already. -/
theorem intern_of_mem (mem : item ∈ table.items) : (table.intern item).2 = table := by
  unfold intern internBy
  split
  case h_1 => rfl
  case h_2 absent => simpa using List.findIdx?_eq_none_iff.1 absent item mem

/-- A new item is stored at the end. -/
theorem intern_of_not_mem (absent : item ∉ table.items) :
    table.intern item = (table.items.length, ⟨table.items ++ [item]⟩) := by
  unfold intern internBy
  split
  case h_1 key found =>
    obtain ⟨inside, same, -⟩ := List.findIdx?_eq_some_iff_getElem.1 found
    exact absurd (beq_iff_eq.1 same ▸ List.getElem_mem inside) absent
  case h_2 => rfl

theorem get?_intern_of_ne (other : key ≠ (table.intern new).1) :
    (table.intern new).2.get? key = table.get? key := by
  by_cases mem : new ∈ table.items
  · rw [intern_of_mem mem]
  · rw [intern_of_not_mem mem] at other ⊢
    exact get?_append_of_ne other

/-- **Tables are lawful interners**, in whichever way positions are written as keys. -/
theorem isLawful_interner {Key : Type} {ofPosition : Nat → Key} {position : Key → Nat}
    (position_ofPosition : ∀ n, position (ofPosition n) = n)
    (ofPosition_position : ∀ key, ofPosition (position key) = key) :
    (interner (α := α) ofPosition position).IsLawful where
  item?_empty := fun _ => rfl
  item?_intern := by
    intro table item
    show (table.intern item).2.get? (position (ofPosition (table.intern item).1)) = some item
    rw [position_ofPosition, get?_intern]
  item?_intern_of_some := by
    intro table key item stored
    show table.get? (position (ofPosition (table.intern item).1)) = some item
    have mem : item ∈ table.items := List.mem_of_getElem? stored
    rw [position_ofPosition, ← get?_intern table item, intern_of_mem mem]
  item?_of_some := fun table key item new stored => get?_internBy_of_some stored _ _
  item?_of_ne := by
    intro table new key other
    refine get?_intern_of_ne fun same => other ?_
    show key = ofPosition (table.intern new).1
    rw [← same, ofPosition_position]

end InternTable

end BoundTree
