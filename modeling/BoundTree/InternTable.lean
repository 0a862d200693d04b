/-!
# Interning tables

An interner keeps one entry for each content and hands out its key.  Entries are
never changed or removed, so a key keeps its meaning for good.  Nothing but this
documented behaviour is relied on, which is `Interner.IsLawful`.

An interning table does that with a list: it stores each item once and hands out
its position as a key.

## Main definitions

* `Interner` — an interner; `Interner.IsLawful` — what is relied on
* `InternTable` — the stored items, oldest first
* `InternTable.get?` — the item of a key
* `InternTable.internBy` — the key of a stored item, or of a new one
* `InternTable.interner` — a table as an interner

## Main statements

* `InternTable.get?_internBy_of_some` — keys handed out earlier keep their items
-/

namespace BoundTree

/-! ### Interners -/

/-- What is used of an interner. -/
structure Interner (State Key Item : Type) where
  /-- The state in which nothing is stored. -/
  empty : State
  /-- The key of an item, which is stored unless it is there already. -/
  intern : State → Item → Key × State
  /-- The item of a key. -/
  item? : State → Key → Option Item

/-- What is documented of an interner. -/
structure Interner.IsLawful {State Key Item : Type} (interner : Interner State Key Item) :
    Prop where
  /-- Nothing is stored at first. -/
  item?_empty : ∀ key, interner.item? interner.empty key = none
  /-- The key that is handed out leads to the item. -/
  item?_intern : ∀ state item,
    interner.item? (interner.intern state item).2 (interner.intern state item).1 = some item
  /-- An item that is stored gets a key under which it is stored. -/
  item?_intern_of_some : ∀ state key item,
    interner.item? state key = some item →
      interner.item? state (interner.intern state item).1 = some item
  /-- What is stored is never changed. -/
  item?_of_some : ∀ state key item new,
    interner.item? state key = some item →
      interner.item? (interner.intern state new).2 key = some item
  /-- No other key than the one that is handed out is affected. -/
  item?_of_ne : ∀ state new key, key ≠ (interner.intern state new).1 →
    interner.item? (interner.intern state new).2 key = interner.item? state key

/-! ### Tables -/

/-- The items that have been stored, oldest first. -/
structure InternTable (α : Type) where
  items : List α

namespace InternTable

variable {α : Type}

/-- The table that stores nothing. -/
def empty : InternTable α :=
  ⟨[]⟩

/-- The item of a key. -/
def get? (table : InternTable α) (key : Nat) : Option α :=
  table.items[key]?

/-- The key of the first item that passes a test, and the table.  When no item
passes, a new one is stored at the end. -/
def internBy (table : InternTable α) (wanted : α → Bool) (fresh : α) : Nat × InternTable α :=
  match table.items.findIdx? wanted with
  | some key => (key, table)
  | none => (table.items.length, ⟨table.items ++ [fresh]⟩)

/-- The key of an item, which is stored unless it is there already. -/
def intern [DecidableEq α] (table : InternTable α) (item : α) : Nat × InternTable α :=
  table.internBy (· == item) item

/-- A table as an interner, with positions written as keys. -/
def interner {Key : Type} [DecidableEq α] (ofPosition : Nat → Key) (position : Key → Nat) :
    Interner (InternTable α) Key α where
  empty := empty
  intern table item := (table.intern item).map ofPosition id
  item? table key := table.get? (position key)

/-- Interning keeps what is stored. -/
theorem get?_internBy_of_some {table : InternTable α} {key : Nat} {item : α}
    (stored : table.get? key = some item) (wanted : α → Bool) (fresh : α) :
    (table.internBy wanted fresh).2.get? key = some item := by
  unfold internBy
  split
  · exact stored
  · simp only [get?] at stored ⊢
    obtain ⟨inside, rfl⟩ := List.getElem?_eq_some_iff.1 stored
    rw [List.getElem?_append_left inside, List.getElem?_eq_getElem inside]

end InternTable

end BoundTree
