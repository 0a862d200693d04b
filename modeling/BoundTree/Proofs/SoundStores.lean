import BoundTree.Proofs.NameRuns
import BoundTree.Proofs.ReadingTypes
import Mathlib.Algebra.Order.BigOperators.Group.List
import Mathlib.Algebra.Order.Group.Nat

/-!
# Sound stores

A session is asked for names, types, locals and methods, and hands out keys.  What it stores
under a key mentions other keys.

**What a request does.**  It stores what was asked for under the handle that it hands out,
leaves all else alone, and hands out a handle that is there already if it can.

**Parts are older.**  A request can only mention what was made before it.  So types can be
given ages such that each type mentions older types only, and reading a type comes to an end.

**One level at a time is enough.**  An interner compares forms, and forms mention keys.  That
equal keys of parts mean equal parts is what makes the comparison of forms one of trees.  It
passes from the parts to the whole.

## Main definitions

* `Stores.Contents.IsSound` — nothing is stored twice, entries mention what is stored, and
  types mention older types

## Main statements

* `Stores.IsLawful.held?_perform`, `Stores.IsLawful.extends_perform`,
  `Stores.IsLawful.eq_or_held?_eq_of_perform`, `Stores.IsLawful.held?_of_stored` — what a
  request does
* `Stores.IsLawful.isSound_perform` — a request keeps the contents sound
* `Stores.Contents.IsSound.exists_isTree` — every stored type has a tree
* `Stores.Contents.IsSound.isTree_inj` — types with equal trees are equal
* `Stores.Contents.Extends.isTree` — a type keeps its tree
-/

namespace BoundTree

/-- A form mentions its name. -/
theorem Entry.name_mem_mentions {form : TypeForm} {name : Name}
    (isName : form.name? = some name) : .name name ∈ (Entry.type form).mentions := by
  rw [mentions, isName]
  exact List.mem_cons_self

/-- A form mentions its parts. -/
theorem Entry.type_mem_mentions {form : TypeForm} {part : TypeKey} (mem : part ∈ form.parts) :
    .type part ∈ (Entry.type form).mentions :=
  List.mem_append_right _ (List.mem_map_of_mem mem)

namespace Stores

variable {stores : Stores}

namespace Contents

/-! ### What is stored -/

/-- There is an entry under the handle. -/
def Knows (contents : stores.Contents) (handle : Handle) : Prop :=
  ∃ entry, contents.held? handle = some entry

/-- The later contents have every entry under the same handle. -/
def Extends (contents later : stores.Contents) : Prop :=
  ∀ handle entry, contents.held? handle = some entry → later.held? handle = some entry

/-- The form of the second type mentions the first one. -/
def Mentions (contents : stores.Contents) (part type : TypeKey) : Prop :=
  ∃ form, contents.typeForm? type = some form ∧ part ∈ form.parts

/-- Each type mentions older types only, by some account of ages. -/
def HasAges (contents : stores.Contents) : Prop :=
  ∃ age : TypeKey → Nat, ∀ part type, contents.Mentions part type → age part < age type

/-- Nothing is stored twice, entries mention what is stored, and types mention older types. -/
structure IsSound (contents : stores.Contents) : Prop where
  once : ∀ handle handle' entry, contents.held? handle = some entry →
    contents.held? handle' = some entry → handle = handle'
  backed : ∀ owner entry, contents.held? owner = some entry →
    ∀ handle ∈ entry.mentions, contents.Knows handle
  has_ages : contents.HasAges

variable {contents later latest : stores.Contents} {entry : Entry}

theorem held?_name_eq_iff {name : Name} {text : String} :
    contents.held? (.name name) = some (.text text) ↔ contents.text? name = some text := by
  simp [held?]

theorem held?_type_eq_iff {type : TypeKey} {form : TypeForm} :
    contents.held? (.type type) = some (.type form) ↔ contents.typeForm? type = some form := by
  simp [held?]

theorem held?_declared_eq_iff {declared : LocalKey} {form : LocalForm} :
    contents.held? (.declared declared) = some (.declared form) ↔
      contents.localForm? declared = some form := by
  simp [held?]

theorem held?_method_eq_iff {method : MethodKey} {form : MethodForm} :
    contents.held? (.method method) = some (.method form) ↔
      contents.methodForm? method = some form := by
  simp [held?]

theorem Knows.exists_text? {name : Name} (known : contents.Knows (.name name)) :
    ∃ text, contents.text? name = some text := by
  obtain ⟨entry, stored⟩ := known
  exact (Option.map_eq_some_iff.1 stored).imp fun text => And.left

theorem Knows.exists_typeForm? {type : TypeKey} (known : contents.Knows (.type type)) :
    ∃ form, contents.typeForm? type = some form := by
  obtain ⟨entry, stored⟩ := known
  exact (Option.map_eq_some_iff.1 stored).imp fun form => And.left

theorem Knows.exists_localForm? {declared : LocalKey}
    (known : contents.Knows (.declared declared)) :
    ∃ form, contents.localForm? declared = some form := by
  obtain ⟨entry, stored⟩ := known
  exact (Option.map_eq_some_iff.1 stored).imp fun form => And.left

theorem Knows.exists_methodForm? {method : MethodKey} (known : contents.Knows (.method method)) :
    ∃ form, contents.methodForm? method = some form := by
  obtain ⟨entry, stored⟩ := known
  exact (Option.map_eq_some_iff.1 stored).imp fun form => And.left

theorem Extends.refl (contents : stores.Contents) : contents.Extends contents :=
  fun _ _ => id

theorem Extends.trans (first : contents.Extends later) (second : later.Extends latest) :
    contents.Extends latest :=
  fun handle entry stored => second handle entry (first handle entry stored)

/-- Ages serve also where fewer types mention others. -/
theorem HasAges.mono (ages : contents.HasAges)
    (fewer : ∀ part type, later.Mentions part type → contents.Mentions part type) :
    later.HasAges :=
  ages.imp fun _ older part type mentions => older part type (fewer part type mentions)

/-- A type that nothing mentions can be given an age above those of the types that it
mentions. -/
theorem HasAges.of_new (ages : contents.HasAges) (new : TypeKey) (form : TypeForm)
    (mentions_cases : ∀ part type, later.Mentions part type → part ≠ new ∧
      (type = new ∧ part ∈ form.parts ∨ type ≠ new ∧ contents.Mentions part type)) :
    later.HasAges := by
  obtain ⟨age, older⟩ := ages
  refine ⟨Function.update age new ((form.parts.map age).sum + 1), fun part type mentions => ?_⟩
  obtain ⟨isOld, ⟨rfl, mem⟩ | ⟨isOther, mentioned⟩⟩ := mentions_cases part type mentions
  · rw [Function.update_of_ne isOld, Function.update_self]
    exact Nat.lt_succ_of_le (List.le_sum_of_mem (List.mem_map_of_mem mem))
  · rw [Function.update_of_ne isOld, Function.update_of_ne isOther]
    exact older part type mentioned

end Contents

/-! ### One request -/

namespace IsLawful

open Contents

variable (lawful : stores.IsLawful) {contents : stores.Contents} {call : SessionCall}

include lawful

theorem held?_empty (handle : Handle) : stores.empty.held? handle = none := by
  cases handle with
  | name name => exact Option.map_eq_none_iff.2 (lawful.names.text?_empty name)
  | type type => exact Option.map_eq_none_iff.2 (lawful.types.item?_empty type)
  | declared declared => exact Option.map_eq_none_iff.2 (lawful.locals.item?_empty declared)
  | method method => exact Option.map_eq_none_iff.2 (lawful.methods.item?_empty method)

/-- **What was asked for is stored under the handle** that is handed out. -/
theorem held?_perform (contents : stores.Contents) (call : SessionCall) :
    (stores.perform contents call).2.held? (stores.perform contents call).1 =
      some call.entry := by
  cases call with
  | name request => exact held?_name_eq_iff.2 (lawful.names.text?_request contents.names request)
  | type form => exact held?_type_eq_iff.2 (lawful.types.item?_intern contents.types form)
  | commonType common =>
    exact held?_type_eq_iff.2 (lawful.types.item?_intern contents.types common.form)
  | declared form =>
    exact held?_declared_eq_iff.2 (lawful.locals.item?_intern contents.locals form)
  | method form =>
    exact held?_method_eq_iff.2 (lawful.methods.item?_intern contents.methods form)

/-- **Everything that is stored stays** as it is. -/
theorem extends_perform (contents : stores.Contents) (call : SessionCall) :
    contents.Extends (stores.perform contents call).2 := by
  intro handle entry stored
  -- a request leaves the stores of the other sorts alone
  cases call <;> cases handle <;> try exact stored
  case name.name request name =>
    obtain ⟨text, spelled, rfl⟩ := Option.map_eq_some_iff.1 stored
    exact held?_name_eq_iff.2 (lawful.names.extends_request contents.names request spelled)
  case type.type | commonType.type =>
    obtain ⟨form, isForm, rfl⟩ := Option.map_eq_some_iff.1 stored
    exact held?_type_eq_iff.2 (lawful.types.item?_of_some _ _ form _ isForm)
  case declared.declared =>
    obtain ⟨form, isForm, rfl⟩ := Option.map_eq_some_iff.1 stored
    exact held?_declared_eq_iff.2 (lawful.locals.item?_of_some _ _ form _ isForm)
  case method.method =>
    obtain ⟨form, isForm, rfl⟩ := Option.map_eq_some_iff.1 stored
    exact held?_method_eq_iff.2 (lawful.methods.item?_of_some _ _ form _ isForm)

/-- **Nothing else is stored.**  An entry is the one that was asked for, or it was stored
before. -/
theorem eq_or_held?_eq_of_perform {handle : Handle} {entry : Entry}
    (stored : (stores.perform contents call).2.held? handle = some entry) :
    (handle = (stores.perform contents call).1 ∧ entry = call.entry) ∨
      contents.held? handle = some entry := by
  cases call <;> cases handle <;> try exact .inr stored
  case name.name =>
    obtain ⟨text, spelled, rfl⟩ := Option.map_eq_some_iff.1 stored
    exact (lawful.names.eq_or_text?_eq_of_request spelled).imp
      (And.imp (congrArg Handle.name) (congrArg Entry.text)) held?_name_eq_iff.2
  case type.type | commonType.type =>
    obtain ⟨form, isForm, rfl⟩ := Option.map_eq_some_iff.1 stored
    exact (lawful.types.eq_or_item?_eq_of_intern isForm).imp
      (And.imp (congrArg Handle.type) (congrArg Entry.type)) held?_type_eq_iff.2
  case declared.declared =>
    obtain ⟨form, isForm, rfl⟩ := Option.map_eq_some_iff.1 stored
    exact (lawful.locals.eq_or_item?_eq_of_intern isForm).imp
      (And.imp (congrArg Handle.declared) (congrArg Entry.declared)) held?_declared_eq_iff.2
  case method.method =>
    obtain ⟨form, isForm, rfl⟩ := Option.map_eq_some_iff.1 stored
    exact (lawful.methods.eq_or_item?_eq_of_intern isForm).imp
      (And.imp (congrArg Handle.method) (congrArg Entry.method)) held?_method_eq_iff.2

/-- **What is stored already is handed out again.** -/
theorem held?_of_stored {handle : Handle} (stored : contents.held? handle = some call.entry) :
    contents.held? (stores.perform contents call).1 = some call.entry := by
  -- an entry is stored under a handle of its own sort only
  cases call <;> cases handle <;>
    simp only [held?, SessionCall.entry, Option.map_eq_some_iff, reduceCtorEq, and_false,
      exists_false, Entry.text.injEq, Entry.type.injEq, Entry.declared.injEq,
      Entry.method.injEq, exists_eq_right] at stored
  case name.name => exact held?_name_eq_iff.2 (lawful.names.text?_request_of_some stored)
  case type.type | commonType.type =>
    exact held?_type_eq_iff.2 (lawful.types.item?_intern_of_some _ _ _ stored)
  case declared.declared =>
    exact held?_declared_eq_iff.2 (lawful.locals.item?_intern_of_some _ _ _ stored)
  case method.method =>
    exact held?_method_eq_iff.2 (lawful.methods.item?_intern_of_some _ _ _ stored)

theorem isSound_empty : stores.empty.IsSound where
  once := by
    intro handle handle' entry stored
    rw [lawful.held?_empty] at stored
    contradiction
  backed := by
    intro owner entry stored
    rw [lawful.held?_empty] at stored
    contradiction
  has_ages := by
    refine ⟨fun _ => 0, ?_⟩
    rintro part type ⟨form, stored, -⟩
    rw [← held?_type_eq_iff, lawful.held?_empty] at stored
    contradiction

/-- A request stores nothing twice. -/
theorem once_perform (sound : contents.IsSound) (handle handle' : Handle) (entry : Entry)
    (stored : (stores.perform contents call).2.held? handle = some entry)
    (stored' : (stores.perform contents call).2.held? handle' = some entry) :
    handle = handle' := by
  rcases lawful.eq_or_held?_eq_of_perform stored with ⟨rfl, rfl⟩ | old
  · rcases lawful.eq_or_held?_eq_of_perform stored' with ⟨rfl, -⟩ | old'
    · rfl
    · exact sound.once _ _ _ (lawful.held?_of_stored old') old'
  · rcases lawful.eq_or_held?_eq_of_perform stored' with ⟨rfl, rfl⟩ | old'
    · exact sound.once _ _ _ old (lawful.held?_of_stored old)
    · exact sound.once _ _ _ old old'

/-- A handle that is handed out and was known had the entry that was asked for. -/
theorem held?_of_knows (known : contents.Knows (stores.perform contents call).1) :
    contents.held? (stores.perform contents call).1 = some call.entry := by
  obtain ⟨entry, stored⟩ := known
  have stays := lawful.extends_perform contents call _ entry stored
  rw [stored, ← stays, lawful.held?_perform]

/-- What a type mentions after a request: the type was asked for, or it mentioned this
before. -/
theorem mentions_cases {part type : TypeKey}
    (mentions : (stores.perform contents call).2.Mentions part type) :
    (∃ form, (stores.perform contents call).1 = .type type ∧ call.entry = .type form ∧
        part ∈ form.parts) ∨ contents.Mentions part type := by
  obtain ⟨form, stored, mem⟩ := mentions
  rcases lawful.eq_or_held?_eq_of_perform (held?_type_eq_iff.2 stored) with
    ⟨handedOut, asked⟩ | old
  · exact .inl ⟨form, handedOut.symm, asked.symm, mem⟩
  · exact .inr ⟨form, held?_type_eq_iff.1 old, mem⟩

/-- Types keep their ages.  A new type is not mentioned by what was stored before, so that it
can be given an age above those of the types that it mentions. -/
theorem hasAges_perform (sound : contents.IsSound)
    (known : ∀ handle ∈ call.entry.mentions, contents.Knows handle) :
    (stores.perform contents call).2.HasAges := by
  by_cases isNew : ∃ new form, (stores.perform contents call).1 = .type new ∧
      call.entry = .type form ∧ ¬ contents.Knows (.type new)
  · obtain ⟨new, form, handedOut, asked, unknown⟩ := isNew
    have ne_new : ∀ part, contents.Knows (.type part) → part ≠ new :=
      fun part isKnown same => unknown (same ▸ isKnown)
    refine sound.has_ages.of_new new form fun part type mentions => ?_
    rcases lawful.mentions_cases mentions with ⟨form', handedOut', asked', mem⟩ | old
    · obtain rfl : new = type := Handle.type.inj (handedOut.symm.trans handedOut')
      obtain rfl : form = form' := Entry.type.inj (asked.symm.trans asked')
      refine ⟨ne_new part (known _ ?_), .inl ⟨rfl, mem⟩⟩
      rw [asked]
      exact Entry.type_mem_mentions mem
    · obtain ⟨found, stored, mem⟩ := old
      have isStored := held?_type_eq_iff.2 stored
      have partKnown := sound.backed _ _ isStored _ (Entry.type_mem_mentions mem)
      exact ⟨ne_new part partKnown, .inr ⟨ne_new type ⟨_, isStored⟩, found, stored, mem⟩⟩
  · -- no type was added, so each type mentions what it mentioned before
    refine sound.has_ages.mono fun part type mentions => ?_
    rcases lawful.mentions_cases mentions with ⟨form, handedOut, asked, mem⟩ | old
    · have isKnown : contents.Knows (stores.perform contents call).1 := by
        by_contra unknown
        exact isNew ⟨type, form, handedOut, asked, handedOut ▸ unknown⟩
      have stored := lawful.held?_of_knows isKnown
      rw [handedOut, asked] at stored
      exact ⟨form, held?_type_eq_iff.1 stored, mem⟩
    · exact old

/-- **A request keeps the contents sound**, provided that what it mentions is stored. -/
theorem isSound_perform (sound : contents.IsSound)
    (known : ∀ handle ∈ call.entry.mentions, contents.Knows handle) :
    (stores.perform contents call).2.IsSound where
  once := lawful.once_perform sound
  backed := by
    intro owner entry stored handle mem
    have isKnown : contents.Knows handle := by
      rcases lawful.eq_or_held?_eq_of_perform stored with ⟨-, rfl⟩ | old
      · exact known handle mem
      · exact sound.backed owner entry old handle mem
    exact isKnown.imp (lawful.extends_perform contents call handle)
  has_ages := lawful.hasAges_perform sound known

end IsLawful

/-! ### Reading sound contents -/

namespace Contents

namespace IsSound

variable {contents : stores.Contents} (sound : contents.IsSound)

include sound

/-- The handles that a stored form mentions are known. -/
theorem knows_of_typeForm? {type : TypeKey} {form : TypeForm}
    (stored : contents.typeForm? type = some form) {handle : Handle}
    (mem : handle ∈ (Entry.type form).mentions) : contents.Knows handle :=
  sound.backed _ _ (held?_type_eq_iff.2 stored) handle mem

/-- Following types to the types that they mention comes to an end. -/
theorem wellFounded_mentions : WellFounded contents.Mentions := by
  obtain ⟨age, older⟩ := sound.has_ages
  exact Subrelation.wf (older _ _) (InvImage.wf age Nat.lt_wfRel.wf)

/-- **Every stored type has a tree.** -/
theorem exists_isTree {type : TypeKey} (known : contents.Knows (.type type)) :
    ∃ tree, contents.IsTree type tree := by
  obtain ⟨age, older⟩ := sound.has_ages
  -- a depth above the age of the type suffices
  have reads : ∀ depth type, contents.Knows (.type type) → age type < depth →
      ∃ tree, contents.tree? depth type = some tree := by
    intro depth
    induction depth with
    | zero => exact fun type _ impossible => absurd impossible (Nat.not_lt_zero _)
    | succ depth inductionHypothesis =>
      intro type known deep
      obtain ⟨form, stored⟩ := known.exists_typeForm?
      have readable : ∀ part ∈ form.parts, ∃ tree, contents.tree? depth part = some tree := by
        intro part mem
        refine inductionHypothesis part ?_ ?_
        · exact sound.knows_of_typeForm? stored (Entry.type_mem_mentions mem)
        · exact Nat.lt_of_lt_of_le (older part type ⟨form, stored, mem⟩) (Nat.le_of_lt_succ deep)
      have named : ∀ name, form.name? = some name → ∃ text, contents.text? name = some text :=
        fun name isName =>
          (sound.knows_of_typeForm? stored (Entry.name_mem_mentions isName)).exists_text?
      obtain ⟨tree, isTree⟩ := TypeForm.exists_treeFrom? named readable
      exact ⟨tree, tree?_succ_eq_some_iff.2 ⟨form, stored, TypeForm.treeFrom?_eq_some_iff.1 isTree⟩⟩
  obtain ⟨tree, isTree⟩ := reads (age type + 1) type known (Nat.lt_succ_self _)
  exact ⟨tree, age type + 1, isTree⟩

/-- A text has one name. -/
theorem name_inj {name name' : Name} {text : String} (spelled : contents.text? name = some text)
    (spelled' : contents.text? name' = some text) : name = name' :=
  Handle.name.inj
    (sound.once _ _ _ (held?_name_eq_iff.2 spelled) (held?_name_eq_iff.2 spelled'))

/-- **Types with equal trees are equal**, to every depth. -/
theorem tree?_inj {depth : Nat} {type type' : TypeKey} {tree : Ty}
    (isTree : contents.tree? depth type = some tree)
    (isTree' : contents.tree? depth type' = some tree) : type = type' := by
  induction depth generalizing type type' tree with
  | zero => contradiction
  | succ depth inductionHypothesis =>
    obtain ⟨form, stored, shows⟩ := tree?_succ_eq_some_iff.1 isTree
    obtain ⟨form', stored', shows'⟩ := tree?_succ_eq_some_iff.1 isTree'
    obtain rfl : form = form' := by
      refine shows.form_eq shows' (fun name name' text => sound.name_inj) ?_
      exact fun part part' tree => inductionHypothesis
    exact Handle.type.inj
      (sound.once _ _ _ (held?_type_eq_iff.2 stored) (held?_type_eq_iff.2 stored'))

/-- **A finite tree has one handle**, by induction over the tree. -/
theorem isTree_inj {type type' : TypeKey} {tree : Ty} (isTree : contents.IsTree type tree)
    (isTree' : contents.IsTree type' tree) : type = type' := by
  obtain ⟨depth, reads⟩ := isTree
  obtain ⟨depth', reads'⟩ := isTree'
  exact sound.tree?_inj (tree?_mono reads (Nat.le_max_left depth depth'))
    (tree?_mono reads' (Nat.le_max_right depth depth'))

/-- Types are equal exactly if their trees are. -/
theorem type_eq_iff {type type' : TypeKey} {tree tree' : Ty}
    (isTree : contents.IsTree type tree) (isTree' : contents.IsTree type' tree') :
    type = type' ↔ tree = tree' := by
  constructor
  · rintro rfl
    exact isTree.unique isTree'
  · rintro rfl
    exact sound.isTree_inj isTree isTree'

/-- Every stored local stands for something. -/
theorem exists_isLocal {declared : LocalKey} (known : contents.Knows (.declared declared)) :
    ∃ value, contents.IsLocal declared value := by
  obtain ⟨form, stored⟩ := known.exists_localForm?
  have backed := sound.backed _ _ (held?_declared_eq_iff.2 stored)
  simp only [Entry.mentions, List.forall_mem_cons] at backed
  obtain ⟨nameKnown, typeKnown, -⟩ := backed
  obtain ⟨text, isText⟩ := nameKnown.exists_text?
  obtain ⟨tree, isTree⟩ := sound.exists_isTree typeKnown
  exact ⟨⟨text, tree, form.isConst⟩, form, stored, isText, isTree, rfl⟩

/-- A local has one handle. -/
theorem isLocal_inj {declared declared' : LocalKey} {value : Local}
    (isLocal : contents.IsLocal declared value) (isLocal' : contents.IsLocal declared' value) :
    declared = declared' := by
  obtain ⟨⟨name, type, isConst⟩, stored, isText, isTree, sameConst⟩ := isLocal
  obtain ⟨⟨name', type', isConst'⟩, stored', isText', isTree', sameConst'⟩ := isLocal'
  obtain rfl := sound.name_inj isText isText'
  obtain rfl := sound.isTree_inj isTree isTree'
  obtain rfl : isConst = isConst' := sameConst.trans sameConst'.symm
  exact Handle.declared.inj
    (sound.once _ _ _ (held?_declared_eq_iff.2 stored) (held?_declared_eq_iff.2 stored'))

/-- Locals are equal exactly if they stand for the same. -/
theorem declared_eq_iff {declared declared' : LocalKey} {value value' : Local}
    (isLocal : contents.IsLocal declared value) (isLocal' : contents.IsLocal declared' value') :
    declared = declared' ↔ value = value' := by
  constructor
  · rintro rfl
    exact isLocal.unique isLocal'
  · rintro rfl
    exact sound.isLocal_inj isLocal isLocal'

/-- Every stored method stands for something. -/
theorem exists_isMethod {method : MethodKey} (known : contents.Knows (.method method)) :
    ∃ value, contents.IsMethod method value := by
  obtain ⟨form, stored⟩ := known.exists_methodForm?
  have backed := sound.backed _ _ (held?_method_eq_iff.2 stored)
  simp only [Entry.mentions, List.forall_mem_cons, List.forall_mem_map] at backed
  obtain ⟨nameKnown, containingKnown, resultKnown, parametersKnown⟩ := backed
  obtain ⟨text, isText⟩ := nameKnown.exists_text?
  obtain ⟨containing, isContaining⟩ := sound.exists_isTree containingKnown
  obtain ⟨result, isResult⟩ := sound.exists_isTree resultKnown
  obtain ⟨parameters, areParameters⟩ :
      ∃ trees, List.Forall₂ contents.IsTree form.parameters trees :=
    exists_forall₂ fun parameter mem => sound.exists_isTree (parametersKnown parameter mem)
  exact ⟨⟨text, containing, parameters, result⟩, form, stored, isText, isContaining,
    areParameters, isResult⟩

/-- A method has one handle. -/
theorem isMethod_inj {method method' : MethodKey} {value : Method}
    (isMethod : contents.IsMethod method value) (isMethod' : contents.IsMethod method' value) :
    method = method' := by
  obtain ⟨⟨name, containing, parameters, result⟩, stored, isText, isContaining, areParameters,
    isResult⟩ := isMethod
  obtain ⟨⟨name', containing', parameters', result'⟩, stored', isText', isContaining',
    areParameters', isResult'⟩ := isMethod'
  have leftUnique : Relator.LeftUnique contents.IsTree := fun _ _ _ => sound.isTree_inj
  obtain rfl := sound.name_inj isText isText'
  obtain rfl := sound.isTree_inj isContaining isContaining'
  obtain rfl := List.left_unique_forall₂' leftUnique areParameters areParameters'
  obtain rfl := sound.isTree_inj isResult isResult'
  exact Handle.method.inj
    (sound.once _ _ _ (held?_method_eq_iff.2 stored) (held?_method_eq_iff.2 stored'))

/-- Methods are equal exactly if they stand for the same. -/
theorem method_eq_iff {method method' : MethodKey} {value value' : Method}
    (isMethod : contents.IsMethod method value)
    (isMethod' : contents.IsMethod method' value') : method = method' ↔ value = value' := by
  constructor
  · rintro rfl
    exact isMethod.unique isMethod'
  · rintro rfl
    exact sound.isMethod_inj isMethod isMethod'

end IsSound

namespace Extends

variable {contents later : stores.Contents} (grown : contents.Extends later)

include grown

/-- A type that is read is read alike from contents that extend these. -/
theorem tree?_eq_some {depth : Nat} {type : TypeKey} {tree : Ty}
    (isTree : contents.tree? depth type = some tree) : later.tree? depth type = some tree := by
  induction depth generalizing type tree with
  | zero => contradiction
  | succ depth inductionHypothesis =>
    obtain ⟨form, stored, shows⟩ := tree?_succ_eq_some_iff.1 isTree
    have storedLater := held?_type_eq_iff.1 (grown _ _ (held?_type_eq_iff.2 stored))
    refine tree?_succ_eq_some_iff.2 ⟨form, storedLater, shows.mono ?_ ?_⟩
    · exact fun name text isText =>
        held?_name_eq_iff.1 (grown _ _ (held?_name_eq_iff.2 isText))
    · exact fun part tree => inductionHypothesis

/-- **A type keeps its tree** while the contents grow. -/
theorem isTree {type : TypeKey} {tree : Ty} (isTree : contents.IsTree type tree) :
    later.IsTree type tree :=
  isTree.imp fun _ => grown.tree?_eq_some

end Extends

end Contents

end Stores

end BoundTree
