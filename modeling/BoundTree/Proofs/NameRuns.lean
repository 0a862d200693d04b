import BoundTree.Name
import BoundTree.Proofs.EqualityClasses
import BoundTree.Proofs.Interning

/-!
# Names over a run

Texts are handed over for their names one after the other, in any of the ways there are.  The
store of texts grows on the way, and what a name means never depends on what else is stored.

**A name is its text.**  A request gives a name that leads to the text, no text is stored
twice, and names keep their texts while the store grows.  Hence two names of one run are equal
exactly if their texts are, and comparing a name with a text compares two texts.  What is the
same about two lists of texts is the same about their names, whatever was interned before.

All of this holds for every lawful store of texts.  The table of names is one.

## Main definitions

* `TextStore.namesOf`, `TextStore.after` — a run of requests: the names, and the state afterwards
* `TextStore.IsReached` — a state that some run leaves
* `TextStore.NamesStandForTexts` — what the names of a run stand for

## Main statements

* `TextStore.IsLawful.text?_request`, `TextStore.IsLawful.storesOnce_request` — one request
* `TextStore.IsLawful.spelled_namesOf` — a run, by induction over the requests
* `TextStore.names_stand_for_texts` — the names of every run, independent of the state before
* `NameTable.isLawful_store` — the table of names is a lawful store
-/

namespace BoundTree

namespace TextStore

variable {State Key : Type} {store : TextStore State Key}

/-- No text is stored under two keys. -/
def StoresOnce (store : TextStore State Key) (state : State) : Prop :=
  ∀ ⦃key key' text⦄, store.text? state key = some text →
    store.text? state key' = some text → key = key'

/-- The later state has every text of the earlier one under the same key. -/
def Extends (store : TextStore State Key) (state later : State) : Prop :=
  ∀ ⦃key text⦄, store.text? state key = some text → store.text? later key = some text

theorem Extends.refl (state : State) : store.Extends state state :=
  fun _ _ spelled => spelled

theorem Extends.trans {state later latest : State} (first : store.Extends state later)
    (second : store.Extends later latest) : store.Extends state latest :=
  fun _ _ spelled => second (first spelled)

/-- Names are equal exactly if their texts are. -/
theorem StoresOnce.key_eq_iff {state : State} (once : store.StoresOnce state) {key key' : Key}
    {text text' : String} (spelled : store.text? state key = some text)
    (spelled' : store.text? state key' = some text') : key = key' ↔ text = text' := by
  constructor
  · rintro rfl
    exact Option.some.inj (spelled.symm.trans spelled')
  · rintro rfl
    exact once spelled spelled'

/-- A name that leads to a text compares equal to that text only. -/
theorem spells_iff {state : State} {key : Key} {text : String}
    (spelled : store.text? state key = some text) (other : String) :
    store.spells state key other = true ↔ other = text := by
  rw [spells, withText?, spelled, Option.map_some, beq_iff_eq, Option.some_inj, beq_iff_eq]
  exact eq_comm

/-! ### One request -/

/-- However a text is handed over, it is interned. -/
theorem request_eq_intern (store : TextStore State Key) (state : State) (request : NameRequest) :
    ∃ lifetime, store.request state request = store.intern state lifetime request.text := by
  cases request with
  | static | convertStatic => exact ⟨.program, rfl⟩
  | dynamic | convertOwned => exact ⟨.run, rfl⟩

namespace IsLawful

variable (lawful : store.IsLawful) {state : State}

include lawful

theorem storesOnce_empty : store.StoresOnce store.empty := by
  intro key key' text spelled
  rw [lawful.text?_empty] at spelled
  contradiction

/-- What a request does: the text is found and nothing changes, or it is added. -/
theorem request_cases (state : State) (request : NameRequest) :
    (∃ key, store.text? state key = some request.text ∧
        store.request state request = (key, state)) ∨
      store.find? state request.text = none ∧
        ∃ lifetime, store.request state request = store.add state lifetime request.text := by
  obtain ⟨lifetime, isIntern⟩ := store.request_eq_intern state request
  rw [isIntern, intern]
  split
  case h_1 key found => exact .inl ⟨key, lawful.text?_of_find? _ _ _ found, rfl⟩
  case h_2 absent => exact .inr ⟨absent, lifetime, rfl⟩

/-- The name that a request gives leads to the text. -/
theorem text?_request (state : State) (request : NameRequest) :
    store.text? (store.request state request).2 (store.request state request).1 =
      some request.text := by
  rcases lawful.request_cases state request with ⟨key, spelled, same⟩ | ⟨absent, lifetime, added⟩
  · rwa [same]
  · rw [added]
    exact lawful.text?_add state lifetime request.text absent

/-- A text that is stored gets a name under which it is stored. -/
theorem text?_request_of_some {request : NameRequest} {key : Key}
    (spelled : store.text? state key = some request.text) :
    store.text? state (store.request state request).1 = some request.text := by
  rcases lawful.request_cases state request with ⟨given, isGiven, same⟩ | ⟨absent, -⟩
  · rwa [same]
  · have found := lawful.find?_isSome state request.text key spelled
    rw [absent] at found
    contradiction

/-- What a name leads to after a request: to the text if it is the name that was given, and
to what it led to before otherwise. -/
theorem eq_or_text?_eq_of_request {request : NameRequest} {key : Key} {text : String}
    (spelled : store.text? (store.request state request).2 key = some text) :
    (key = (store.request state request).1 ∧ text = request.text) ∨
      store.text? state key = some text := by
  by_cases given : key = (store.request state request).1
  · subst given
    exact .inl ⟨rfl, Option.some.inj (spelled.symm.trans (lawful.text?_request state request))⟩
  · refine .inr ?_
    rcases lawful.request_cases state request with ⟨_, -, same⟩ | ⟨absent, lifetime, added⟩
    · rwa [same] at spelled
    · rw [added] at given spelled
      rwa [lawful.text?_add_of_ne state lifetime request.text absent key given] at spelled

/-- One request keeps all names. -/
theorem extends_request (state : State) (request : NameRequest) :
    store.Extends state (store.request state request).2 := by
  intro key text spelled
  rcases lawful.request_cases state request with ⟨_, -, same⟩ | ⟨absent, lifetime, added⟩
  · rwa [same]
  · have old : key ≠ (store.add state lifetime request.text).1 := by
      rintro rfl
      rw [lawful.add_fresh state lifetime request.text absent] at spelled
      contradiction
    rw [added, lawful.text?_add_of_ne state lifetime request.text absent key old, spelled]

/-- **A request stores no text twice.** -/
theorem storesOnce_request (once : store.StoresOnce state) (request : NameRequest) :
    store.StoresOnce (store.request state request).2 := by
  intro key key' text spelled spelled'
  rcases lawful.eq_or_text?_eq_of_request spelled with ⟨rfl, rfl⟩ | old
  · rcases lawful.eq_or_text?_eq_of_request spelled' with ⟨rfl, -⟩ | old'
    · rfl
    · exact once (lawful.text?_request_of_some old') old'
  · rcases lawful.eq_or_text?_eq_of_request spelled' with ⟨rfl, rfl⟩ | old'
    · exact once old (lawful.text?_request_of_some old)
    · exact once old old'

end IsLawful

/-! ### A run of requests -/

/-- The names of texts that are handed over one after the other. -/
def namesOf (store : TextStore State Key) (state : State) : List NameRequest → List Key
  | [] => []
  | request :: requests =>
    (store.request state request).1 :: store.namesOf (store.request state request).2 requests

/-- The state after texts were handed over one after the other. -/
def after (store : TextStore State Key) (state : State) : List NameRequest → State
  | [] => state
  | request :: requests => store.after (store.request state request).2 requests

/-- The state is what some run leaves of the empty one. -/
def IsReached (store : TextStore State Key) (state : State) : Prop :=
  ∃ requests, store.after store.empty requests = state

namespace IsLawful

variable (lawful : store.IsLawful) {state : State}

include lawful

theorem extends_after (state : State) (requests : List NameRequest) :
    store.Extends state (store.after state requests) := by
  induction requests generalizing state with
  | nil => exact .refl state
  | cons request requests inductionHypothesis =>
    exact (lawful.extends_request state request).trans (inductionHypothesis _)

theorem storesOnce_after (once : store.StoresOnce state) (requests : List NameRequest) :
    store.StoresOnce (store.after state requests) := by
  induction requests generalizing state with
  | nil => exact once
  | cons request requests inductionHypothesis =>
    exact inductionHypothesis (lawful.storesOnce_request once request)

/-- In every state that is reached each text has one name. -/
theorem storesOnce_of_isReached (reached : store.IsReached state) : store.StoresOnce state := by
  obtain ⟨requests, rfl⟩ := reached
  exact lawful.storesOnce_after lawful.storesOnce_empty requests

/-- **Every name of a run leads to its text** when the run has ended. -/
theorem spelled_namesOf (state : State) (requests : List NameRequest) :
    List.Forall₂
      (fun name request => store.text? (store.after state requests) name = some request.text)
      (store.namesOf state requests) requests := by
  induction requests generalizing state with
  | nil => exact .nil
  | cons request requests inductionHypothesis =>
    refine .cons ?_ (inductionHypothesis _)
    exact lawful.extends_after _ requests (lawful.text?_request state request)

/-- The texts of the names of a run are the texts that were handed over, in order. -/
theorem map_text?_namesOf (state : State) (requests : List NameRequest) :
    (store.namesOf state requests).map (store.text? (store.after state requests)) =
      requests.map fun request => some request.text := by
  rw [← List.forall₂_eq_eq_eq, List.forall₂_map_left_iff, List.forall₂_map_right_iff]
  exact lawful.spelled_namesOf state requests

/-- The names of a run have the classes of their texts. -/
theorem classes_namesOf [DecidableEq Key] (reached : store.IsReached state)
    (requests : List NameRequest) {β γ : Type} [DecidableEq β] [DecidableEq γ]
    (digest : Key → β) (digest' : Option String → γ) :
    EqualityClasses.of digest (store.namesOf state requests) =
      EqualityClasses.of digest' (requests.map fun request => some request.text) := by
  rw [← lawful.map_text?_namesOf state]
  refine (EqualityClasses.of_map ?_ digest digest').symm
  intro name mem name' _ sameText
  have isText := List.mem_map_of_mem (f := store.text? (store.after state requests)) mem
  rw [lawful.map_text?_namesOf] at isText
  obtain ⟨request, -, spelled⟩ := List.mem_map.1 isText
  have once := lawful.storesOnce_after (lawful.storesOnce_of_isReached reached) requests
  exact once spelled.symm (sameText ▸ spelled.symm)

end IsLawful

/-- What the names of a run stand for.

* No text is stored under two keys, and every request gives a name.
* Two names are equal exactly if they were given for equal texts.
* After any further requests, a name still gives exactly its text, whether it is copied out,
  written, or handed to a function, and compares equal to that text only. -/
structure NamesStandForTexts (store : TextStore State Key) (state : State)
    (requests : List NameRequest) : Prop where
  stored_once : store.StoresOnce (store.after state requests)
  length_eq : (store.namesOf state requests).length = requests.length
  eq_iff : ∀ a ∈ (store.namesOf state requests).zip requests,
    ∀ b ∈ (store.namesOf state requests).zip requests, a.1 = b.1 ↔ a.2.text = b.2.text
  text_eq : ∀ further, ∀ a ∈ (store.namesOf state requests).zip requests,
    store.text? (store.after (store.after state requests) further) a.1 = some a.2.text
  display_eq : ∀ further, ∀ a ∈ (store.namesOf state requests).zip requests, ∀ written,
    store.display? (store.after (store.after state requests) further) a.1 written =
      some (written ++ a.2.text)
  withText_eq : ∀ further, ∀ a ∈ (store.namesOf state requests).zip requests,
    ∀ (α : Type) (use : String → α),
      store.withText? (store.after (store.after state requests) further) a.1 use =
        some (use a.2.text)
  spells_iff : ∀ further, ∀ a ∈ (store.namesOf state requests).zip requests, ∀ text,
    store.spells (store.after (store.after state requests) further) a.1 text = true ↔
      text = a.2.text

theorem IsLawful.namesStandForTexts (lawful : store.IsLawful) {state : State}
    (reached : store.IsReached state) (requests : List NameRequest) :
    store.NamesStandForTexts state requests := by
  have once := lawful.storesOnce_after (lawful.storesOnce_of_isReached reached) requests
  obtain ⟨sameLength, spelled⟩ := List.forall₂_iff_zip.1 (lawful.spelled_namesOf state requests)
  have spelledLater : ∀ further, ∀ a ∈ (store.namesOf state requests).zip requests,
      store.text? (store.after (store.after state requests) further) a.1 = some a.2.text :=
    fun further a mem => lawful.extends_after _ further (spelled mem)
  refine ⟨once, sameLength, ?_, spelledLater, ?_, ?_, ?_⟩
  · exact fun a memA b memB => once.key_eq_iff (spelled memA) (spelled memB)
  · intro further a mem written
    rw [display?, withText?, spelledLater further a mem, Option.map_some]
  · intro further a mem α use
    rw [withText?, spelledLater further a mem, Option.map_some]
  · exact fun further a mem => TextStore.spells_iff (spelledLater further a mem)

/-- **Names stand for texts**, in every run and from every state that a run leaves.  The
classes of the names of a list of texts, their texts and their comparisons with a text are
the same from whichever such state they are requested, and in whichever ways. -/
theorem names_stand_for_texts [DecidableEq Key] (lawful : store.IsLawful) {state : State}
    (reached : store.IsReached state) (requests : List NameRequest) :
    store.NamesStandForTexts state requests ∧
      ∀ state', store.IsReached state' → ∀ requests' : List NameRequest,
        requests'.map NameRequest.text = requests.map NameRequest.text →
        (∀ (β : Type) [DecidableEq β] (digest : Key → β),
          EqualityClasses.of digest (store.namesOf state' requests') =
            EqualityClasses.of digest (store.namesOf state requests)) ∧
        (store.namesOf state' requests').map (store.text? (store.after state' requests')) =
          (store.namesOf state requests).map (store.text? (store.after state requests)) ∧
        ∀ text, (store.namesOf state' requests').map
            (store.spells (store.after state' requests') · text) =
          (store.namesOf state requests).map
            (store.spells (store.after state requests) · text) := by
  refine ⟨lawful.namesStandForTexts reached requests, ?_⟩
  intro state' reached' requests' sameTexts
  have sameSome : requests'.map (fun request => some request.text) =
      requests.map fun request => some request.text := by
    have := congrArg (List.map some) sameTexts
    rwa [List.map_map, List.map_map] at this
  have sameRead :
      (store.namesOf state' requests').map (store.text? (store.after state' requests')) =
        (store.namesOf state requests).map (store.text? (store.after state requests)) := by
    rw [lawful.map_text?_namesOf, lawful.map_text?_namesOf, sameSome]
  refine ⟨fun β _ digest => ?_, sameRead, fun text => ?_⟩
  · rw [lawful.classes_namesOf reached' requests' digest id,
      lawful.classes_namesOf reached requests digest id, sameSome]
  · -- comparing a name with a text looks at the text of the name only
    have sameCompared := congrArg (List.map fun read => read.map (· == text) == some true) sameRead
    rwa [List.map_map, List.map_map] at sameCompared

end TextStore

namespace NameTable

/-- **The table of names is a lawful store.** -/
theorem isLawful_store : store.IsLawful where
  text?_empty := fun _ => rfl
  text?_of_find? := by
    intro table text name found
    obtain ⟨position, isFirst, rfl⟩ := Option.map_eq_some_iff.1 found
    obtain ⟨inside, hasText, -⟩ := List.findIdx?_eq_some_iff_getElem.1 isFirst
    exact Option.map_eq_some_iff.2 ⟨_, List.getElem?_eq_getElem inside, by simpa using hasText⟩
  find?_isSome := by
    intro table text name spelled
    obtain ⟨item, stored, rfl⟩ := Option.map_eq_some_iff.1 spelled
    show ((table.items.findIdx? (·.1 == item.1)).map Name.mk).isSome
    rw [Option.isSome_map, List.findIdx?_isSome, List.any_eq_true]
    exact ⟨item, List.mem_of_getElem? stored, beq_self_eq_true item.1⟩
  text?_add := by
    intro table lifetime text _
    exact Option.map_eq_some_iff.2 ⟨(text, lifetime), List.getElem?_concat_length, rfl⟩
  add_fresh := by
    intro table lifetime text _
    exact Option.map_eq_none_iff.2 (List.getElem?_eq_none (Nat.le_refl _))
  text?_add_of_ne := by
    intro table lifetime text _ name notNew
    have other : name.key ≠ table.items.length := fun same => notNew (congrArg Name.mk same)
    exact congrArg (Option.map Prod.fst) (InternTable.get?_append_of_ne other)

/-- A table in which one of the texts of the next run is stored already. -/
def sharedTable : NameTable :=
  store.after .empty [.static "total", .dynamic "counter"]

theorem isReached_sharedTable : store.IsReached sharedTable :=
  ⟨_, rfl⟩

/-- A run that hands over a stored text, a new one twice and the stored one again. -/
def sharedRequests : List NameRequest :=
  [.convertOwned "counter", .static "x", .convertStatic "x", .dynamic "counter"]

/-- A run over a table that holds one of its texts already: the names are those of the texts,
whichever way these are handed over. -/
theorem names_stand_for_texts_sharedTable :
    store.IsLawful ∧ store.IsReached sharedTable ∧
      store.namesOf sharedTable sharedRequests = [⟨1⟩, ⟨2⟩, ⟨2⟩, ⟨1⟩] ∧
      store.NamesStandForTexts sharedTable sharedRequests ∧
      (store.namesOf sharedTable sharedRequests).map
          (store.text? (store.after sharedTable sharedRequests)) =
        (store.namesOf .empty sharedRequests).map
          (store.text? (store.after .empty sharedRequests)) :=
  have law := TextStore.names_stand_for_texts isLawful_store isReached_sharedTable sharedRequests
  ⟨isLawful_store, isReached_sharedTable, by decide, law.1,
    (law.2 .empty ⟨[], rfl⟩ sharedRequests rfl).2.1.symm⟩

end NameTable

end BoundTree
