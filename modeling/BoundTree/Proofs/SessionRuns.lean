import BoundTree.Proofs.SoundStores

/-!
# Keys over a run of a session

Names, types, locals and methods are requested one after the other, in any order.  Each
request may mention what was handed out before it, and nothing else can be mentioned.

**A key is a value.**  Nothing is stored but what was handed out, and each form is stored
after what it mentions.  So types can be read from their keys downwards, and two keys of a
run are equal exactly if they stand for the same.  What they stand for does not depend on
the order of the requests, and later requests do not change it.

All of this holds for all lawful stores.

## Main definitions

* `Stores.State` — the contents of the stores, and what was requested and handed out
* `Stores.State.Admits`, `Stores.State.after` — a run of requests
* `Stores.State.HandlesAreValues` — what the keys of a run stand for

## Main statements

* `Stores.State.IsKept.next`, `Stores.State.IsKept.after` — what a request keeps, and a run
* `Stores.State.IsKept.handlesAreValues` — keys are values where that is kept
* `Stores.State.handles_are_values` — the keys of every run
-/

namespace BoundTree

namespace Stores

/-- Stores in use. -/
structure State (stores : Stores) where
  contents : stores.Contents
  /-- The requests and what was handed out on them, the latest first. -/
  made : List (SessionCall × Handle)

/-- Stores of which nothing was requested. -/
def start (stores : Stores) : stores.State :=
  ⟨stores.empty, []⟩

namespace State

variable {stores : Stores}

/-- Everything that was handed out, the latest first. -/
def handed (state : stores.State) : List Handle :=
  state.made.map Prod.snd

/-- The stores after one more request. -/
def next (state : stores.State) (call : SessionCall) : stores.State :=
  ⟨(stores.perform state.contents call).2,
    (call, (stores.perform state.contents call).1) :: state.made⟩

/-- The stores after a list of requests. -/
def after (state : stores.State) : List SessionCall → stores.State
  | [] => state
  | call :: calls => (state.next call).after calls

/-- Each request of the list mentions only what was handed out before it. -/
def Admits (state : stores.State) : List SessionCall → Prop
  | [] => True
  | call :: calls => (∀ handle ∈ call.entry.mentions, handle ∈ state.handed) ∧
      (state.next call).Admits calls

instance decidableAdmits (state : stores.State) (calls : List SessionCall) :
    Decidable (state.Admits calls) :=
  match calls with
  | [] => .isTrue trivial
  | call :: calls =>
    have := decidableAdmits (state.next call) calls
    inferInstanceAs (Decidable (_ ∧ _))

/-! ### One request, and a run -/

/-- A run of calls keeps all that is stored. -/
theorem extends_after (lawful : stores.IsLawful) (state : stores.State)
    (calls : List SessionCall) : state.contents.Extends (state.after calls).contents := by
  induction calls generalizing state with
  | nil => exact .refl _
  | cons call calls inductionHypothesis =>
    exact (lawful.extends_perform state.contents call).trans
      (inductionHypothesis (state.next call))

/-- What every run keeps: the contents are sound, handles lead to what was requested, and what
was requested mentions what was made before. -/
structure IsKept (state : stores.State) : Prop where
  sound : state.contents.IsSound
  answers : ∀ pair ∈ state.made, state.contents.held? pair.2 = some pair.1.entry
  mentions_made : ∀ newer call handle older, state.made = newer ++ (call, handle) :: older →
    ∀ mentioned ∈ call.entry.mentions, mentioned ∈ older.map Prod.snd

namespace IsKept

theorem start (lawful : stores.IsLawful) : stores.start.IsKept where
  sound := lawful.isSound_empty
  answers := List.forall_mem_nil _
  mentions_made := by
    intro newer call handle older noCalls
    exact absurd noCalls.symm (List.append_ne_nil_of_right_ne_nil _ (List.cons_ne_nil _ _))

variable {state : stores.State}

theorem knows (kept : state.IsKept) {handle : Handle} (mem : handle ∈ state.handed) :
    state.contents.Knows handle := by
  obtain ⟨pair, made, rfl⟩ := List.mem_map.1 mem
  exact ⟨_, kept.answers pair made⟩

/-- **A request** that mentions what was handed out keeps this. -/
theorem next (lawful : stores.IsLawful) (kept : state.IsKept) {call : SessionCall}
    (given : ∀ handle ∈ call.entry.mentions, handle ∈ state.handed) :
    (state.next call).IsKept where
  sound := lawful.isSound_perform kept.sound fun handle mem => kept.knows (given handle mem)
  answers := by
    refine List.forall_mem_cons.2 ⟨lawful.held?_perform state.contents call, ?_⟩
    exact fun pair mem => lawful.extends_perform state.contents call _ _ (kept.answers pair mem)
  mentions_made := by
    intro newer earlier handle older isMade
    cases newer with
    | nil =>
      obtain ⟨isLatest, rfl⟩ := List.cons_eq_cons.1 isMade
      obtain rfl : call = earlier := congrArg Prod.fst isLatest
      exact given
    | cons latest newer =>
      exact kept.mentions_made newer earlier handle older (List.cons_eq_cons.1 isMade).2

/-- **A run** keeps this, by induction over its requests. -/
theorem after (lawful : stores.IsLawful) (kept : state.IsKept) {calls : List SessionCall}
    (admits : state.Admits calls) : (state.after calls).IsKept := by
  induction calls generalizing state with
  | nil => exact kept
  | cons call calls inductionHypothesis =>
    exact inductionHypothesis (kept.next lawful admits.1) admits.2

end IsKept

/-! ### What keys stand for -/

/-- What the handles of a run stand for.

* Every handle leads to what was requested, and what was requested mentions only what was made
  before.  So following a type to the types that it mentions always comes to an end.
* Reading a type form by form gives a finite tree, and its written form is that of the tree.
* Two types are equal exactly if their trees are.
* Two locals are equal exactly if they stand for the same: the texts of their names, the trees
  of their types and their constness are equal.  Likewise for methods. -/
structure HandlesAreValues (state : stores.State) : Prop where
  answers : ∀ pair ∈ state.made, state.contents.held? pair.2 = some pair.1.entry
  mentions_made : ∀ newer call handle older, state.made = newer ++ (call, handle) :: older →
    ∀ mentioned ∈ call.entry.mentions, mentioned ∈ older.map Prod.snd
  ends : WellFounded state.contents.Mentions
  type_read : ∀ type, Handle.type type ∈ state.handed → ∃ tree,
    state.contents.IsTree type tree ∧
      ∀ chars, state.contents.IsWritten type chars ↔ chars = tree.chars
  type_eq_iff : ∀ type type' tree tree', state.contents.IsTree type tree →
    state.contents.IsTree type' tree' → (type = type' ↔ tree = tree')
  local_read : ∀ declared, Handle.declared declared ∈ state.handed →
    ∃ value, state.contents.IsLocal declared value
  local_eq_iff : ∀ declared declared' value value', state.contents.IsLocal declared value →
    state.contents.IsLocal declared' value' → (declared = declared' ↔ value = value')
  method_read : ∀ method, Handle.method method ∈ state.handed →
    ∃ value, state.contents.IsMethod method value
  method_eq_iff : ∀ method method' value value', state.contents.IsMethod method value →
    state.contents.IsMethod method' value' → (method = method' ↔ value = value')

/-- In a well kept session, handles stand for values. -/
theorem IsKept.handlesAreValues {state : stores.State} (kept : state.IsKept) :
    state.HandlesAreValues where
  answers := kept.answers
  mentions_made := kept.mentions_made
  ends := kept.sound.wellFounded_mentions
  type_read := by
    intro type mem
    obtain ⟨tree, isTree⟩ := kept.sound.exists_isTree (kept.knows mem)
    exact ⟨tree, isTree, fun chars => isTree.isWritten_iff⟩
  type_eq_iff := fun _ _ _ _ => kept.sound.type_eq_iff
  local_read := fun declared mem => kept.sound.exists_isLocal (kept.knows mem)
  local_eq_iff := fun _ _ _ _ => kept.sound.declared_eq_iff
  method_read := fun method mem => kept.sound.exists_isMethod (kept.knows mem)
  method_eq_iff := fun _ _ _ _ => kept.sound.method_eq_iff

/-- **The keys of every run are values.**  Later requests leave the trees of types alone, and
types of two runs that have equal trees are written alike, in whichever stores. -/
theorem handles_are_values (lawful : stores.IsLawful) {calls : List SessionCall}
    (admits : stores.start.Admits calls) :
    (stores.start.after calls).HandlesAreValues ∧
      (∀ further type tree, (stores.start.after calls).contents.IsTree type tree →
        ((stores.start.after calls).after further).contents.IsTree type tree) ∧
      ∀ (stores' : Stores) (calls' : List SessionCall) (type type' : TypeKey) (tree : Ty),
        (stores.start.after calls).contents.IsTree type tree →
        (stores'.start.after calls').contents.IsTree type' tree →
        ∀ chars, (stores.start.after calls).contents.IsWritten type chars ↔
          (stores'.start.after calls').contents.IsWritten type' chars := by
  have kept : (stores.start.after calls).IsKept := (IsKept.start lawful).after lawful admits
  refine ⟨kept.handlesAreValues, fun further type tree isTree => ?_, ?_⟩
  · exact (extends_after lawful _ further).isTree isTree
  · intro stores' calls' type type' tree isTree isTree' chars
    rw [isTree.isWritten_iff, isTree'.isWritten_iff]

end State

end Stores

/-! ### The tables of a session -/

namespace Session

/-- **The tables of a session are lawful stores.** -/
theorem isLawful_stores : stores.IsLawful where
  names := NameTable.isLawful_store
  types := InternTable.isLawful_interner (fun _ => rfl) fun _ => rfl
  locals := InternTable.isLawful_interner (fun _ => rfl) fun _ => rfl
  methods := InternTable.isLawful_interner (fun _ => rfl) fun _ => rfl

/-- A run that makes a list type and its nullable form, some of it twice, a local and a
method. -/
def listCalls : List SessionCall :=
  [.name (.static "List"), .commonType .int32, .type (.named ⟨0⟩ [⟨0⟩]), .type (.nullable ⟨1⟩),
    .type (.integral 32 true), .name (.dynamic "List"), .type (.named ⟨0⟩ [⟨0⟩]),
    .declared ⟨⟨0⟩, ⟨2⟩, false⟩, .method ⟨⟨0⟩, ⟨1⟩, [⟨0⟩, ⟨1⟩], ⟨2⟩⟩]

/-- A run that makes the same types after others. -/
def laterListCalls : List SessionCall :=
  [.name (.static "x"), .commonType .string, .commonType .int32, .name (.convertOwned "List"),
    .type (.named ⟨1⟩ [⟨1⟩]), .type (.nullable ⟨2⟩)]

/-- The nullable list type of both runs. -/
def nullableList : Ty :=
  .nullable (.named "List" [.int32])

theorem handles_are_values_listCalls :
    stores.IsLawful ∧ stores.start.Admits listCalls ∧
      (stores.start.after listCalls).HandlesAreValues ∧
      (stores.start.after listCalls).handed =
        [.method ⟨0⟩, .declared ⟨0⟩, .type ⟨1⟩, .name ⟨0⟩, .type ⟨0⟩, .type ⟨2⟩, .type ⟨1⟩,
          .type ⟨0⟩, .name ⟨0⟩] ∧
      (stores.start.after listCalls).contents.IsTree ⟨2⟩ nullableList ∧
      (stores.start.after laterListCalls).contents.IsTree ⟨3⟩ nullableList ∧
      ∀ chars, (stores.start.after listCalls).contents.IsWritten ⟨2⟩ chars ↔
        (stores.start.after laterListCalls).contents.IsWritten ⟨3⟩ chars := by
  have admits : stores.start.Admits listCalls := by decide
  have isTree : (stores.start.after listCalls).contents.IsTree ⟨2⟩ nullableList :=
    ⟨3, by decide⟩
  have isTreeLater : (stores.start.after laterListCalls).contents.IsTree ⟨3⟩ nullableList :=
    ⟨3, by decide⟩
  obtain ⟨areValues, -, sameWritten⟩ :=
    Stores.State.handles_are_values isLawful_stores admits
  exact ⟨isLawful_stores, admits, areValues, by decide, isTree, isTreeLater,
    sameWritten stores laterListCalls ⟨2⟩ ⟨3⟩ nullableList isTree isTreeLater⟩

end Session

end BoundTree
