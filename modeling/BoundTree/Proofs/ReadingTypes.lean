import BoundTree.Session.Stores
import Mathlib.Data.List.Forall2

/-!
# Reading types

One level of a type is read from its form, given what is read of the types that the form
mentions.  Read level by level, more depth never changes what was read.  The written form is
read in the same way, and it is the written form of the tree, so it depends on nothing else.

## Main definitions

* `TypeForm.Shows` — a form with parts that are read as those of a tree
* `Stores.Contents.IsTree`, `Stores.Contents.IsWritten` — the tree of a type and its written
  form, as reading gives them
* `Stores.Contents.IsLocal`, `Stores.Contents.IsMethod` — what locals and methods stand for

## Main statements

* `TypeForm.treeFrom?_eq_some_iff`, `TypeForm.charsFrom?_eq` — one level of reading
* `Stores.Contents.tree?_mono` — reading deeper
* `Stores.Contents.display?_eq` — the written form is that of the tree
-/

namespace BoundTree

/-! ### Reading a list -/

theorem mapM_eq_some_iff_forall₂ {α β : Type} {read : α → Option β} {keys : List α}
    {values : List β} :
    keys.mapM read = some values ↔ List.Forall₂ (fun key value => read key = some value)
      keys values := by
  induction keys generalizing values with
  | nil => cases values <;> simp
  | cons key keys inductionHypothesis =>
    rw [List.forall₂_cons_left_iff]
    simp only [List.mapM_cons, Option.bind_eq_bind, Option.bind_eq_some_iff, Option.pure_def,
      Option.some_inj, inductionHypothesis]
    constructor
    · rintro ⟨value, isValue, values, areValues, rfl⟩
      exact ⟨value, values, isValue, areValues, rfl⟩
    · rintro ⟨value, values, isValue, areValues, rfl⟩
      exact ⟨value, isValue, values, areValues, rfl⟩

/-- Values that exist for each key make a list. -/
theorem exists_forall₂ {α β : Type} {relation : α → β → Prop} {keys : List α}
    (related : ∀ key ∈ keys, ∃ value, relation key value) :
    ∃ values, List.Forall₂ relation keys values := by
  induction keys with
  | nil => exact ⟨[], .nil⟩
  | cons key keys inductionHypothesis =>
    obtain ⟨⟨value, isValue⟩, others⟩ := List.forall_mem_cons.1 related
    obtain ⟨values, areValues⟩ := inductionHypothesis others
    exact ⟨value :: values, .cons isValue areValues⟩

theorem mapM_map_some {α β γ : Type} (read : α → Option β) (image : β → γ) (keys : List α) :
    keys.mapM (fun key => (read key).map image) = (keys.mapM read).map (List.map image) := by
  induction keys with
  | nil => rfl
  | cons key keys inductionHypothesis =>
    rw [List.mapM_cons, List.mapM_cons, inductionHypothesis]
    cases read key <;> cases keys.mapM read <;> rfl

namespace TypeForm

variable {texts : Name → Option String} {read : TypeKey → Option Ty} {form : TypeForm} {tree : Ty}

/-! ### One level -/

/-- The form is one level of the tree, and its parts are read as those of the tree. -/
def Shows (texts : Name → Option String) (read : TypeKey → Option Ty) (form : TypeForm) : Ty → Prop
  | .integral bits signed => form = .integral bits signed
  | .float bits => form = .float bits
  | .decimal => form = .decimal
  | .boolean => form = .boolean
  | .char => form = .char
  | .string => form = .string
  | .object => form = .object
  | .named text trees => ∃ name arguments, form = .named name arguments ∧
      texts name = some text ∧
      List.Forall₂ (fun argument tree => read argument = some tree) arguments trees
  | .nullable tree => ∃ underlying, form = .nullable underlying ∧ read underlying = some tree
  | .error => form = .error

/-- One level is read exactly if the form shows it. -/
theorem treeFrom?_eq_some_iff :
    treeFrom? texts read form = some tree ↔ form.Shows texts read tree := by
  cases form with
  | named name arguments =>
    simp only [treeFrom?, Option.bind_eq_bind, Option.bind_eq_some_iff, Option.pure_def,
      Option.some_inj, mapM_eq_some_iff_forall₂]
    constructor
    · rintro ⟨text, isText, trees, areTrees, rfl⟩
      exact ⟨name, arguments, rfl, isText, areTrees⟩
    · intro shows
      cases tree with
      | named text trees =>
        obtain ⟨_, _, same, isText, areTrees⟩ := shows
        cases same
        exact ⟨text, isText, trees, areTrees, rfl⟩
      | nullable =>
        obtain ⟨_, same, _⟩ := shows
        cases same
      | _ => cases shows
  | nullable underlying =>
    simp only [treeFrom?, Option.map_eq_some_iff]
    constructor
    · rintro ⟨tree, isTree, rfl⟩
      exact ⟨underlying, rfl, isTree⟩
    · intro shows
      cases tree with
      | nullable tree =>
        obtain ⟨_, same, isTree⟩ := shows
        cases same
        exact ⟨tree, isTree, rfl⟩
      | named =>
        obtain ⟨_, _, same, _⟩ := shows
        cases same
      | _ => cases shows
  | _ => cases tree <;> simp [treeFrom?, Shows, eq_comm]

/-- A form shows the same tree where at least as much can be read. -/
theorem Shows.mono {texts' : Name → Option String} {read' : TypeKey → Option Ty}
    (shows : form.Shows texts read tree)
    (moreNames : ∀ name text, texts name = some text → texts' name = some text)
    (moreTypes : ∀ part tree, read part = some tree → read' part = some tree) :
    form.Shows texts' read' tree := by
  cases tree with
  | named text trees =>
    obtain ⟨name, arguments, isForm, isText, areTrees⟩ := shows
    exact ⟨name, arguments, isForm, moreNames name text isText,
      areTrees.imp fun argument tree => moreTypes argument tree⟩
  | nullable tree =>
    obtain ⟨underlying, isForm, isTree⟩ := shows
    exact ⟨underlying, isForm, moreTypes underlying tree isTree⟩
  | _ => exact shows

/-- Two forms that show one tree are equal, provided that equal texts have one name and the
trees of the parts have one key. -/
theorem Shows.form_eq {form' : TypeForm} (shows : form.Shows texts read tree)
    (shows' : form'.Shows texts read tree)
    (oneName : ∀ name name' text, texts name = some text →
      texts name' = some text → name = name')
    (oneKey : ∀ part part' tree, read part = some tree → read part' = some tree →
      part = part') : form = form' := by
  cases tree with
  | named text trees =>
    obtain ⟨name, arguments, rfl, isText, areTrees⟩ := shows
    obtain ⟨name', arguments', rfl, isText', areTrees'⟩ := shows'
    have leftUnique : Relator.LeftUnique fun part tree => read part = some tree :=
      fun part part' tree => oneKey part part' tree
    rw [oneName name name' text isText isText',
      List.left_unique_forall₂' leftUnique areTrees areTrees']
  | nullable tree =>
    obtain ⟨underlying, rfl, isTree⟩ := shows
    obtain ⟨underlying', rfl, isTree'⟩ := shows'
    rw [oneKey underlying underlying' tree isTree isTree']
  | _ => exact Eq.trans shows (Eq.symm shows')

/-- A form whose name and parts can be read has a tree. -/
theorem exists_treeFrom? (named : ∀ name, form.name? = some name →
      ∃ text, texts name = some text)
    (readable : ∀ part ∈ form.parts, ∃ tree, read part = some tree) :
    ∃ tree, treeFrom? texts read form = some tree := by
  cases form with
  | named name arguments =>
    obtain ⟨text, isText⟩ := named name rfl
    obtain ⟨trees, areTrees⟩ := exists_forall₂ readable
    exact ⟨.named text trees,
      treeFrom?_eq_some_iff.2 ⟨name, arguments, rfl, isText, areTrees⟩⟩
  | nullable underlying =>
    obtain ⟨tree, isTree⟩ := readable underlying (List.mem_singleton_self _)
    exact ⟨.nullable tree, by rw [treeFrom?, isTree]; rfl⟩
  | _ => exact ⟨_, rfl⟩

/-- The written form of a list of types in angle brackets. -/
theorem argumentChars_cons (tree : Ty) (trees : List Ty) :
    Ty.argumentChars (tree :: trees) =
      '<' :: ([',', ' '].intercalate ((tree :: trees).map Ty.chars) ++ ['>']) := by
  have more : ∀ tree : Ty, tree.chars ++ Ty.moreChars trees =
      [',', ' '].intercalate ((tree :: trees).map Ty.chars) ++ ['>'] := by
    induction trees with
    | nil =>
      intro tree
      show tree.chars ++ ['>'] = _
      simp
    | cons next trees inductionHypothesis =>
      intro tree
      show tree.chars ++ ([',', ' '] ++ (next.chars ++ Ty.moreChars trees)) = _
      rw [inductionHypothesis next]
      simp [List.intercalate]
  exact congrArg ('<' :: ·) (more tree)

/-- One level of the written form is the written form of one level of the tree. -/
theorem charsFrom?_eq (texts : Name → Option String) (read : TypeKey → Option Ty) (form : TypeForm) :
    charsFrom? texts (fun part => (read part).map Ty.chars) form =
      (treeFrom? texts read form).map Ty.chars := by
  cases form with
  | integral bits signed => cases signed <;> rfl
  | float bits =>
    refine congrArg some ?_
    show (if bits = 32 then "Single" else "Double").toList =
      if bits = 32 then "Single".toList else "Double".toList
    exact apply_ite String.toList _ _ _
  | named name arguments =>
    cases arguments with
    | nil =>
      simp only [charsFrom?, treeFrom?]
      cases texts name with
      | none => rfl
      | some text =>
        show some text.toList = some (text.toList ++ [])
        rw [List.append_nil]
    | cons argument arguments =>
      simp only [charsFrom?, treeFrom?, mapM_map_some]
      cases texts name with
      | none => rfl
      | some text =>
        cases areTrees : (argument :: arguments).mapM read with
        | none => rfl
        | some trees =>
          obtain ⟨tree, rest, -, -, rfl⟩ :=
            List.forall₂_cons_left_iff.1 (mapM_eq_some_iff_forall₂.1 areTrees)
          show _ = some (text.toList ++ Ty.argumentChars (tree :: rest))
          rw [argumentChars_cons]
          rfl
  | nullable underlying =>
    simp only [charsFrom?, treeFrom?, Option.map_map]
    rfl
  | _ => rfl

end TypeForm

namespace Stores.Contents

variable {stores : Stores}

/-! ### All levels -/

section

variable (contents : stores.Contents)

/-- Reading the type comes to an end and gives this tree. -/
def IsTree (type : TypeKey) (tree : Ty) : Prop :=
  ∃ depth, contents.tree? depth type = some tree

/-- Reading the written form of the type comes to an end and gives these characters. -/
def IsWritten (type : TypeKey) (chars : List Char) : Prop :=
  ∃ depth, contents.display? depth type = some chars

/-- What is read of the local: the text of its name, its type, and whether it is constant. -/
def IsLocal (declared : LocalKey) (value : Local) : Prop :=
  ∃ form, contents.localForm? declared = some form ∧
    contents.text? form.name = some value.name ∧ contents.IsTree form.type value.type ∧
    form.isConst = value.isConst

/-- What is read of the method: the text of its name, and the types that it mentions. -/
def IsMethod (method : MethodKey) (value : Method) : Prop :=
  ∃ form, contents.methodForm? method = some form ∧
    contents.text? form.name = some value.name ∧
    contents.IsTree form.containing value.containing ∧
    List.Forall₂ contents.IsTree form.parameters value.parameters ∧
    contents.IsTree form.result value.result

end

variable {contents : stores.Contents} {type : TypeKey} {tree : Ty} {depth : Nat}

/-- A type is read to a depth if its form shows a tree whose parts are read to one less. -/
theorem tree?_succ_eq_some_iff :
    contents.tree? (depth + 1) type = some tree ↔
      ∃ form, contents.typeForm? type = some form ∧
        form.Shows contents.text? (contents.tree? depth) tree := by
  rw [tree?, read?, Option.bind_eq_some_iff]
  exact exists_congr fun form => and_congr_right fun _ => TypeForm.treeFrom?_eq_some_iff

/-- **Reading deeper** gives the same tree. -/
theorem tree?_mono {deeper : Nat} (isTree : contents.tree? depth type = some tree)
    (le : depth ≤ deeper) : contents.tree? deeper type = some tree := by
  induction depth generalizing type tree deeper with
  | zero => contradiction
  | succ depth inductionHypothesis =>
    obtain ⟨deeper, rfl⟩ := Nat.exists_eq_add_of_lt le
    obtain ⟨form, stored, shows⟩ := tree?_succ_eq_some_iff.1 isTree
    refine tree?_succ_eq_some_iff.2 ⟨form, stored, shows.mono (fun _ _ isText => isText) ?_⟩
    intro part tree isPart
    exact inductionHypothesis isPart (by omega)

/-- **The written form is that of the tree**, to every depth. -/
theorem display?_eq (contents : stores.Contents) (depth : Nat) (type : TypeKey) :
    contents.display? depth type = (contents.tree? depth type).map Ty.chars := by
  induction depth generalizing type with
  | zero => rfl
  | succ depth inductionHypothesis =>
    have sameReading : contents.display? depth =
        fun part => (contents.tree? depth part).map Ty.chars := by
      funext part
      exact inductionHypothesis part
    show (contents.typeForm? type).bind
        (TypeForm.charsFrom? contents.text? (contents.display? depth)) =
      ((contents.typeForm? type).bind
        (TypeForm.treeFrom? contents.text? (contents.tree? depth))).map Ty.chars
    rw [sameReading, Option.map_bind]
    congr 1
    funext form
    exact TypeForm.charsFrom?_eq _ _ form

theorem IsTree.unique {tree' : Ty} (isTree : contents.IsTree type tree)
    (isTree' : contents.IsTree type tree') : tree = tree' := by
  obtain ⟨depth, reads⟩ := isTree
  obtain ⟨depth', reads'⟩ := isTree'
  have deep := tree?_mono reads (Nat.le_max_left depth depth')
  have deep' := tree?_mono reads' (Nat.le_max_right depth depth')
  exact Option.some.inj (deep.symm.trans deep')

/-- The written form of a type is determined by its tree. -/
theorem IsTree.isWritten_iff (isTree : contents.IsTree type tree) {chars : List Char} :
    contents.IsWritten type chars ↔ chars = tree.chars := by
  constructor
  · rintro ⟨depth, written⟩
    rw [display?_eq, Option.map_eq_some_iff] at written
    obtain ⟨tree', reads, rfl⟩ := written
    rw [isTree.unique ⟨depth, reads⟩]
  · rintro rfl
    obtain ⟨depth, reads⟩ := isTree
    exact ⟨depth, by rw [display?_eq, reads, Option.map_some]⟩

theorem IsLocal.unique {declared : LocalKey} {value value' : Local}
    (isLocal : contents.IsLocal declared value) (isLocal' : contents.IsLocal declared value') :
    value = value' := by
  obtain ⟨form, stored, isText, isTree, sameConst⟩ := isLocal
  obtain ⟨form', stored', isText', isTree', sameConst'⟩ := isLocal'
  obtain rfl := Option.some.inj (stored.symm.trans stored')
  have sameName := Option.some.inj (isText.symm.trans isText')
  have sameType := isTree.unique isTree'
  cases value
  cases value'
  simp_all

theorem IsMethod.unique {method : MethodKey} {value value' : Method}
    (isMethod : contents.IsMethod method value) (isMethod' : contents.IsMethod method value') :
    value = value' := by
  obtain ⟨form, stored, isText, isContaining, areParameters, isResult⟩ := isMethod
  obtain ⟨form', stored', isText', isContaining', areParameters', isResult'⟩ := isMethod'
  obtain rfl := Option.some.inj (stored.symm.trans stored')
  have sameName := Option.some.inj (isText.symm.trans isText')
  have sameContaining := isContaining.unique isContaining'
  have rightUnique : Relator.RightUnique contents.IsTree := fun _ _ _ => IsTree.unique
  have sameParameters := List.right_unique_forall₂' rightUnique areParameters areParameters'
  have sameResult := isResult.unique isResult'
  cases value
  cases value'
  simp_all

end Stores.Contents

end BoundTree
