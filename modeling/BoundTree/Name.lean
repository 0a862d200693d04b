import BoundTree.InternTable

/-!
# Interned names

Names of locals, methods and types are interned, so that they are carried and
compared as keys.  A text may live as long as the program or be built while it
runs; that decides how it is stored and never which key it gets.

**Looking first, then storing.**  A text is looked up in a store of texts and only
added when it is not there.  Nothing but the documented behaviour of the store is
relied on, which is `TextStore.IsLawful`.

## Main definitions

* `TextStore` — a store of texts; `TextStore.IsLawful` — what is relied on
* `TextStore.intern` — the name of a text
* `NameRequest`, `TextStore.request` — the ways to hand over a text
* `TextStore.withText?`, `TextStore.spells`, `TextStore.display?` — using the text of a
  name, comparing with it, and writing it
* `Name`, `NameTable` — keys and interned texts, oldest first; `NameTable.store`
-/

namespace BoundTree

/-- How long a text lives that is given to the table. -/
inductive Lifetime where
  /-- As long as the program; the text itself is kept. -/
  | program
  /-- Shorter than that; a copy is kept. -/
  | run
  deriving DecidableEq

/-! ### Stores of texts -/

/-- What is used of a store of texts. -/
structure TextStore (State Key : Type) where
  /-- The state in which nothing is stored. -/
  empty : State
  /-- The key of a text, if the text is stored. -/
  find? : State → String → Option Key
  /-- The key under which a text is stored that was not stored before. -/
  add : State → Lifetime → String → Key × State
  /-- The text of a key. -/
  text? : State → Key → Option String

/-- What is documented of a store of texts. -/
structure TextStore.IsLawful {State Key : Type} (store : TextStore State Key) : Prop where
  /-- Nothing is stored at first. -/
  text?_empty : ∀ key, store.text? store.empty key = none
  /-- The key that is found leads to the text. -/
  text?_of_find? : ∀ state text key,
    store.find? state text = some key → store.text? state key = some text
  /-- A text that is stored is found. -/
  find?_isSome : ∀ state text key,
    store.text? state key = some text → (store.find? state text).isSome
  /-- The key of a new text leads to it. -/
  text?_add : ∀ state lifetime text, store.find? state text = none →
    store.text? (store.add state lifetime text).2 (store.add state lifetime text).1 = some text
  /-- The key of a new text is a fresh one. -/
  add_fresh : ∀ state lifetime text, store.find? state text = none →
    store.text? state (store.add state lifetime text).1 = none
  /-- A new text leaves the other keys alone. -/
  text?_add_of_ne : ∀ state lifetime text, store.find? state text = none →
    ∀ key, key ≠ (store.add state lifetime text).1 →
      store.text? (store.add state lifetime text).2 key = store.text? state key

/-- A text that is handed over for its name. -/
inductive NameRequest where
  /-- A text that lives as long as the program. -/
  | static (text : String)
  /-- A text that is lent for the request. -/
  | dynamic (text : String)
  /-- A text that lives as long as the program and is converted to a name. -/
  | convertStatic (text : String)
  /-- A text that is given away and converted to a name. -/
  | convertOwned (text : String)

namespace NameRequest

/-- The text that is handed over. -/
def text : NameRequest → String
  | static text => text
  | dynamic text => text
  | convertStatic text => text
  | convertOwned text => text

end NameRequest

namespace TextStore

variable {State Key : Type} (store : TextStore State Key)

/-- The key of a text.  A text that is stored already keeps its key, whatever the
lifetimes. -/
def intern (state : State) (lifetime : Lifetime) (text : String) : Key × State :=
  match store.find? state text with
  | some key => (key, state)
  | none => store.add state lifetime text

/-- The key of a text that lives as long as the program. -/
def internStatic (state : State) (text : String) : Key × State :=
  store.intern state .program text

/-- The key of a text that is built while the program runs. -/
def internDynamic (state : State) (text : String) : Key × State :=
  store.intern state .run text

/-- The key of a text that is handed over.  A conversion is a request by the lifetime of
the text. -/
def request (state : State) : NameRequest → Key × State
  | .static text => store.internStatic state text
  | .dynamic text => store.internDynamic state text
  | .convertStatic text => store.internStatic state text
  | .convertOwned text => store.internDynamic state text

/-- What a function makes of the text of a key. -/
def withText? {α : Type} (state : State) (key : Key) (use : String → α) : Option α :=
  (store.text? state key).map use

/-- Whether a key stands for a text. -/
def spells (state : State) (key : Key) (text : String) : Bool :=
  store.withText? state key (· == text) == some true

/-- The text of a key behind what is written already. -/
def display? (state : State) (key : Key) (written : String) : Option String :=
  store.withText? state key (written ++ ·)

end TextStore

/-! ### The table of names -/

/-- The key of an interned name. -/
structure Name where
  key : Nat
  deriving DecidableEq

/-- The texts of all names interned so far, each with the lifetime under which it
was stored. -/
abbrev NameTable := InternTable (String × Lifetime)

namespace NameTable

/-- The text of a name. -/
def text? (table : NameTable) (name : Name) : Option String :=
  (table.get? name.key).map (·.1)

/-- The table as a store of texts: the first entry with a text is found, and a new text is
stored at the end. -/
def store : TextStore NameTable Name where
  empty := .empty
  find? table text := (table.items.findIdx? (·.1 == text)).map Name.mk
  add table lifetime text := (⟨table.items.length⟩, ⟨table.items ++ [(text, lifetime)]⟩)
  text? := text?

/-- The name of a text. -/
def intern (table : NameTable) (lifetime : Lifetime) (text : String) : Name × NameTable :=
  store.intern table lifetime text

/-- Whether a name stands for a text. -/
def spells (table : NameTable) (name : Name) (text : String) : Bool :=
  store.spells table name text

end NameTable

end BoundTree
