import BoundTree.Proofs.SessionRuns
import Mathlib.Data.List.Induction

/-!
# Reading the tables of a session

A session reads all types in one pass over its table, oldest first.  That gives the trees that
are read from the keys downwards, as keys are positions and a type mentions types at smaller
positions only.

## Main definitions

* `Session.after`, `Session.IsReached` — a run of requests to a session

## Main statements

* `Session.contents_perform` — a session does what its tables do as stores
* `Session.key_lt_of_mentions_after` — types are stored behind what they mention
* `Session.IsReached.type?_eq_some_iff` — the pass over the table gives the trees of types
* `Session.IsReached.local?_eq_some_iff`, `Session.IsReached.method?_eq_some_iff` — so locals
  and methods are read as what they stand for
-/

namespace BoundTree

/-! ### A list that is built up item by item, each from the items before it -/

theorem length_foldl_append {α β : Type} (next : List β → α → β) (items : List α) :
    (items.foldl (fun earlier item => earlier ++ [next earlier item]) []).length =
      items.length := by
  induction items using List.reverseRecOn with
  | nil => rfl
  | append_singleton items item inductionHypothesis =>
    rw [List.foldl_append, List.foldl_cons, List.foldl_nil, List.length_append,
      inductionHypothesis, List.length_append, List.length_singleton, List.length_singleton]

/-- The result for an item depends on the item and on the results before it. -/
theorem getElem?_foldl_append {α β : Type} (next : List β → α → β) (items : List α)
    (position : Nat) :
    (items.foldl (fun earlier item => earlier ++ [next earlier item]) [])[position]? =
      items[position]?.map
        (next ((items.foldl (fun earlier item => earlier ++ [next earlier item]) []).take
          position)) := by
  have length_eq := length_foldl_append next
  induction items using List.reverseRecOn with
  | nil => rfl
  | append_singleton items item inductionHypothesis =>
    rw [List.foldl_append, List.foldl_cons, List.foldl_nil]
    rcases Nat.lt_trichotomy position items.length with before | rfl | behind
    · -- an earlier item, which is built from even earlier ones
      rw [List.getElem?_append_left (by rwa [length_eq]), inductionHypothesis,
        List.getElem?_append_left before,
        List.take_append_of_le_length (by rw [length_eq]; exact Nat.le_of_lt before)]
    · -- the new item, which is built from all the others
      rw [List.getElem?_concat_length, ← length_eq items, List.getElem?_concat_length,
        List.take_left, Option.map_some]
    · rw [List.getElem?_eq_none, List.getElem?_eq_none, Option.map_none]
      · rw [List.length_append, List.length_singleton]
        exact behind
      · rw [List.length_append, List.length_singleton, length_eq]
        exact behind

/-! ### Reading from parts -/

theorem mapM_congr {α β : Type} {read read' : α → Option β} {keys : List α}
    (same : ∀ key ∈ keys, read key = read' key) : keys.mapM read = keys.mapM read' := by
  induction keys with
  | nil => rfl
  | cons key keys inductionHypothesis =>
    obtain ⟨sameFirst, sameOthers⟩ := List.forall_mem_cons.1 same
    rw [List.mapM_cons, List.mapM_cons, sameFirst, inductionHypothesis sameOthers]

namespace TypeForm

/-- Only the parts of a form are read. -/
theorem treeFrom?_congr {texts : Name → Option String} {read read' : TypeKey → Option Ty}
    {form : TypeForm} (sameParts : ∀ part ∈ form.parts, read part = read' part) :
    treeFrom? texts read form = treeFrom? texts read' form := by
  cases form with
  | named name arguments =>
    have sameTrees : arguments.mapM read = arguments.mapM read' := mapM_congr sameParts
    rw [treeFrom?, treeFrom?, sameTrees]
  | nullable underlying =>
    rw [treeFrom?, treeFrom?, sameParts underlying (List.mem_singleton_self _)]
  | _ => rfl

/-- The one pass over the table reads a form from the list of the trees before it. -/
theorem tree?_eq_treeFrom? (names : NameTable) (earlier : List (Option Ty)) (form : TypeForm) :
    form.tree? names earlier =
      treeFrom? names.text? (fun part => earlier[part.key]?.join) form := by
  cases form <;> rfl

end TypeForm

namespace Session

/-! ### A session and its tables -/

/-- **A session does what its tables do as stores.** -/
theorem contents_perform (session : Session) (call : SessionCall) :
    stores.perform session.contents call =
      ((session.perform call).1, (session.perform call).2.contents) := by
  cases call <;> rfl

/-- The session after a list of requests. -/
def after (session : Session) : List SessionCall → Session
  | [] => session
  | call :: calls => ((session.perform call).2).after calls

/-- A run in tables leaves the contents that the run of a session leaves. -/
theorem contents_after (session : Session) (made : List (SessionCall × Handle))
    (calls : List SessionCall) :
    ((⟨session.contents, made⟩ : stores.State).after calls).contents =
      (session.after calls).contents := by
  induction calls generalizing session made with
  | nil => rfl
  | cons call calls inductionHypothesis =>
    rw [Stores.State.after, Stores.State.next, contents_perform, inductionHypothesis, after]

/-! ### Positions -/

/-- Stored types have positions inside of the table. -/
theorem key_lt_length {session : Session} {type : TypeKey}
    (known : session.contents.Knows (.type type)) : type.key < session.types.items.length := by
  obtain ⟨form, stored⟩ := known.exists_typeForm?
  exact (List.getElem?_eq_some_iff.1 stored).1

/-- A type that is not stored gets the position at the end. -/
theorem key_of_not_knows {session : Session} {call : SessionCall} {type : TypeKey}
    {form : TypeForm} (handedOut : (stores.perform session.contents call).1 = .type type)
    (asked : call.entry = .type form) (unknown : ¬ session.contents.Knows (.type type)) :
    type.key = session.types.items.length := by
  have absent : form ∉ session.types.items := by
    intro mem
    obtain ⟨position, inside, isForm⟩ := List.mem_iff_getElem.1 mem
    have stored : session.contents.typeForm? ⟨position⟩ = some form :=
      List.getElem?_eq_some_iff.2 ⟨inside, isForm⟩
    have stored := Stores.Contents.held?_type_eq_iff.2 stored
    rw [← asked] at stored
    have found := isLawful_stores.held?_of_stored stored
    rw [handedOut] at found
    exact unknown ⟨_, found⟩
  have isKey : type.key = (session.types.intern form).1 := by
    cases call with
    | type | commonType =>
      obtain rfl := Entry.type.inj asked
      obtain rfl := Handle.type.inj handedOut
      rfl
    | _ => cases asked
  rw [isKey, InternTable.intern_of_not_mem absent]

/-- A request keeps types behind what they mention. -/
theorem key_lt_of_mentions_perform {session : Session} {call : SessionCall}
    (known : ∀ handle ∈ call.entry.mentions, session.contents.Knows handle)
    (behind : ∀ part type, session.contents.Mentions part type → part.key < type.key)
    (part type : TypeKey)
    (mentions : (stores.perform session.contents call).2.Mentions part type) :
    part.key < type.key := by
  rcases isLawful_stores.mentions_cases mentions with ⟨form, handedOut, asked, mem⟩ | old
  · by_cases isKnown : session.contents.Knows (.type type)
    · have stored := isLawful_stores.held?_of_knows (handedOut ▸ isKnown)
      rw [handedOut, asked] at stored
      exact behind part type ⟨form, Stores.Contents.held?_type_eq_iff.1 stored, mem⟩
    · have partKnown : session.contents.Knows (.type part) := by
        refine known _ ?_
        rw [asked]
        exact Entry.type_mem_mentions mem
      rw [key_of_not_knows handedOut asked isKnown]
      exact key_lt_length partKnown
  · exact behind part type old

/-- **Types are stored behind what they mention**, in every run. -/
theorem key_lt_of_mentions_after {session : Session} {made : List (SessionCall × Handle)}
    (kept : Stores.State.IsKept (⟨session.contents, made⟩ : stores.State))
    {calls : List SessionCall} (admits : (⟨session.contents, made⟩ : stores.State).Admits calls)
    (behind : ∀ part type, session.contents.Mentions part type → part.key < type.key) :
    ∀ part type, (session.after calls).contents.Mentions part type → part.key < type.key := by
  induction calls generalizing session made with
  | nil => exact behind
  | cons call calls inductionHypothesis =>
    have known : ∀ handle ∈ call.entry.mentions, session.contents.Knows handle :=
      fun handle mem => kept.knows (admits.1 handle mem)
    have isNext : (⟨session.contents, made⟩ : stores.State).next call =
        ⟨(session.perform call).2.contents, (call, (session.perform call).1) :: made⟩ := by
      rw [Stores.State.next, contents_perform]
    have keptNext := kept.next isLawful_stores admits.1
    have admitsNext := admits.2
    rw [isNext] at keptNext admitsNext
    refine inductionHypothesis keptNext admitsNext fun part type mentions => ?_
    refine key_lt_of_mentions_perform known behind part type ?_
    rwa [contents_perform]

/-! ### Reading the tables -/

/-- Some run leaves the session. -/
def IsReached (session : Session) : Prop :=
  ∃ calls, stores.start.Admits calls ∧ empty.after calls = session

namespace IsReached

variable {session : Session} (reached : session.IsReached)

include reached

theorem isSound : session.contents.IsSound := by
  obtain ⟨calls, admits, rfl⟩ := reached
  rw [← contents_after empty []]
  exact ((Stores.State.IsKept.start isLawful_stores).after isLawful_stores admits).sound

/-- Types are stored behind the types that they mention. -/
theorem key_lt_of_mentions {part type : TypeKey}
    (mentions : session.contents.Mentions part type) : part.key < type.key := by
  obtain ⟨calls, admits, rfl⟩ := reached
  have kept : Stores.State.IsKept (⟨empty.contents, []⟩ : stores.State) :=
    .start isLawful_stores
  refine key_lt_of_mentions_after kept admits ?_ part type mentions
  rintro part type ⟨form, stored, -⟩
  contradiction

/-- What a type is read as, from what its parts are read as. -/
theorem type?_eq (type : TypeKey) :
    session.type? type =
      (session.contents.typeForm? type).bind
        (TypeForm.treeFrom? session.contents.text? session.type?) := by
  have unfolded_eq : session.unfolded[type.key]? = (session.types.get? type.key).map
      (·.tree? session.names (session.unfolded.take type.key)) :=
    getElem?_foldl_append (fun earlier (form : TypeForm) => form.tree? session.names earlier)
      session.types.items type.key
  have sameForm : session.contents.typeForm? type = session.types.get? type.key := rfl
  rw [type?, unfolded_eq, sameForm]
  cases stored : session.types.get? type.key with
  | none => rfl
  | some form =>
    rw [Option.map_some, TypeForm.tree?_eq_treeFrom?]
    refine TypeForm.treeFrom?_congr fun part mem => ?_
    rw [List.getElem?_take_of_lt (reached.key_lt_of_mentions ⟨form, sameForm.trans stored, mem⟩)]
    rfl

/-- What is read from a key downwards is read in the pass over the table. -/
theorem type?_of_tree? {depth : Nat} {type : TypeKey} {tree : Ty}
    (isTree : session.contents.tree? depth type = some tree) : session.type? type = some tree := by
  induction depth generalizing type tree with
  | zero => contradiction
  | succ depth inductionHypothesis =>
    obtain ⟨form, stored, shows⟩ := Stores.Contents.tree?_succ_eq_some_iff.1 isTree
    rw [reached.type?_eq, stored, Option.bind_some, TypeForm.treeFrom?_eq_some_iff]
    exact shows.mono (fun _ _ isText => isText) fun part tree => inductionHypothesis

/-- **The pass over the table gives the trees of types.** -/
theorem type?_eq_some_iff {type : TypeKey} {tree : Ty} :
    session.type? type = some tree ↔ session.contents.IsTree type tree := by
  constructor
  · intro isTree
    have read := isTree
    rw [reached.type?_eq, Option.bind_eq_some_iff] at read
    obtain ⟨form, stored, -⟩ := read
    obtain ⟨tree', isTree'⟩ := reached.isSound.exists_isTree
      ⟨_, Stores.Contents.held?_type_eq_iff.2 stored⟩
    obtain ⟨depth, reads⟩ := isTree'
    obtain rfl := Option.some.inj (isTree.symm.trans (reached.type?_of_tree? reads))
    exact ⟨depth, reads⟩
  · rintro ⟨depth, reads⟩
    exact reached.type?_of_tree? reads

theorem local?_eq_some_iff {declared : LocalKey} {value : Local} :
    session.local? declared = some value ↔ session.contents.IsLocal declared value := by
  simp only [local?, Option.bind_eq_bind, Option.bind_eq_some_iff, Option.pure_def,
    Option.some_inj, reached.type?_eq_some_iff]
  constructor
  · rintro ⟨form, stored, text, isText, tree, isTree, rfl⟩
    exact ⟨form, stored, isText, isTree, rfl⟩
  · rintro ⟨form, stored, isText, isTree, sameConst⟩
    exact ⟨form, stored, value.name, isText, value.type, isTree, by rw [sameConst]⟩

theorem method?_eq_some_iff {method : MethodKey} {value : Method} :
    session.method? method = some value ↔ session.contents.IsMethod method value := by
  simp only [method?, Option.bind_eq_bind, Option.bind_eq_some_iff, Option.pure_def,
    Option.some_inj, reached.type?_eq_some_iff, mapM_eq_some_iff_forall₂]
  constructor
  · rintro ⟨form, stored, text, isText, containing, isContaining, parameters, areParameters,
      result, isResult, rfl⟩
    exact ⟨form, stored, isText, isContaining, areParameters, isResult⟩
  · rintro ⟨form, stored, isText, isContaining, areParameters, isResult⟩
    exact ⟨form, stored, _, isText, _, isContaining, _, areParameters, _, isResult, rfl⟩

end IsReached

end Session

end BoundTree
