import BoundTree.Proofs.Dump.Faithful
import BoundTree.Proofs.Places
import Mathlib.Data.List.Basic

/-!
# Dumps line by line

The dump visits a tree by recursion and counts the depth, the traversal keeps a stack and
knows no depth.  They visit the same places in the same order: the entries of the dump are
the lines of the root and of the operations below it, as the traversal returns them, each
indented by the length of its path.

**Entries may hold line feeds.**  Of all that an entry shows, only names are written as
they are.  Numbers, flags and separators hold no line feed, and quoted constants hide
theirs.  So the text has a line feed between any two entries and those of the names, and
it has one line for each operation exactly when there are none in names.

## Main definitions

* `feeds`, `nameFeeds` — the number of line feeds in a text and in names
* `Place.entry` — the entry of a place

## Main statements

* `Operation.lines_eq_map_places` — the entries of a dump, place by place
* `Operation.lines_eq_of_at?` — the entries of a part stand together
* `Operation.feeds_line` — the line feeds of an entry are those of its names
* `Operation.dump_follows_traversal` — dump and traversal agree
-/

namespace BoundTree

/-! ### Line feeds -/

/-- The number of line feeds in a text. -/
def feeds (cs : List Char) : Nat :=
  cs.count '\n'

/-- The number of line feeds in some names, counted at every occurrence. -/
def nameFeeds (names : List String) : Nat :=
  Operation.total (names.map fun name => feeds name.toList)

theorem feeds_append (cs cs' : List Char) : feeds (cs ++ cs') = feeds cs + feeds cs' :=
  List.count_append

theorem feeds_cons {c : Char} (noFeed : c ≠ '\n') (cs : List Char) : feeds (c :: cs) = feeds cs :=
  List.count_cons_of_ne noFeed

theorem feeds_eq_zero_iff {cs : List Char} : feeds cs = 0 ↔ '\n' ∉ cs :=
  List.count_eq_zero

theorem Sealed.feeds_eq_zero {cs : List Char} (isSealed : Sealed cs) : feeds cs = 0 :=
  feeds_eq_zero_iff.2 isSealed.no_line_feed

theorem AllPlain.feeds_eq_zero {cs : List Char} (plain : AllPlain cs) : feeds cs = 0 :=
  plain.sealed.feeds_eq_zero

/-- **No constant adds a line feed**, not even a string that holds one. -/
theorem feeds_constant (constant : ConstantValue) : feeds constant.chars = 0 :=
  (sealed_constant constant).feeds_eq_zero

theorem feeds_flatMap {α : Type} (text : α → List Char) (items : List α) :
    feeds (items.flatMap text) = Operation.total (items.map fun item => feeds (text item)) := by
  induction items with
  | nil => rfl
  | cons item items inductionHypothesis =>
    rw [List.flatMap_cons, feeds_append, inductionHypothesis, List.map_cons, Operation.total]

/-- Joined texts and one more separator have the line feeds of all texts and separators. -/
theorem feeds_intercalate (stop : List Char) {texts : List (List Char)} (someText : texts ≠ []) :
    feeds (stop.intercalate texts) + feeds stop =
      Operation.total (texts.map fun text => feeds text + feeds stop) := by
  simp only [← feeds_append]
  rw [intercalate_append_stop someText, feeds_flatMap]

theorem total_map_succ {α : Type} (size : α → Nat) (items : List α) :
    Operation.total (items.map fun item => size item + 1) =
      Operation.total (items.map size) + items.length := by
  induction items with
  | nil => rfl
  | cons item items inductionHypothesis =>
    simp only [List.map_cons, Operation.total, List.length_cons, inductionHypothesis]
    omega

theorem total_eq_zero_iff {sizes : List Nat} :
    Operation.total sizes = 0 ↔ ∀ size ∈ sizes, size = 0 := by
  induction sizes with
  | nil => simp [Operation.total]
  | cons size sizes inductionHypothesis =>
    rw [Operation.total, Nat.add_eq_zero_iff, inductionHypothesis, List.forall_mem_cons]

theorem nameFeeds_cons (name : String) (names : List String) :
    nameFeeds (name :: names) = feeds name.toList + nameFeeds names :=
  rfl

theorem nameFeeds_append (names names' : List String) :
    nameFeeds (names ++ names') = nameFeeds names + nameFeeds names' := by
  rw [nameFeeds, List.map_append, Operation.total_append, nameFeeds, nameFeeds]

theorem nameFeeds_eq_zero_iff {names : List String} :
    nameFeeds names = 0 ↔ ∀ name ∈ names, '\n' ∉ name.toList := by
  rw [nameFeeds, total_eq_zero_iff, List.forall_mem_map]
  simp only [feeds_eq_zero_iff]

/-! ### Line feeds of types -/

namespace Ty

/-- A type that holds no names is sealed, so it has no line feeds. -/
theorem feeds_chars_of_nameless {t : Ty} (nameless : t.names = []) :
    feeds t.chars = nameFeeds t.names := by
  have plain : ∀ name ∈ t.names, IsPlainName name := by
    rw [nameless]
    exact List.forall_mem_nil _
  rw [(sealed_chars t plain).feeds_eq_zero, nameless]
  rfl

mutual

/-- The line feeds in the written form of a type are those of its names. -/
theorem feeds_chars (t : Ty) : feeds t.chars = nameFeeds t.names := by
  cases t with
  | named name arguments =>
    show feeds (name.toList ++ argumentChars arguments) = nameFeeds (name :: namesAll arguments)
    rw [feeds_append, feeds_argumentChars arguments, nameFeeds_cons]
  | nullable underlying =>
    have noFeed : feeds ['?'] = 0 := rfl
    show feeds (underlying.chars ++ ['?']) = nameFeeds underlying.names
    rw [feeds_append, feeds_chars underlying, noFeed, Nat.add_zero]
  | integral | float | decimal | boolean | char | string | object | error =>
    exact feeds_chars_of_nameless rfl

/-- The brackets and separators of arguments have no line feeds. -/
theorem feeds_argumentChars (ts : List Ty) : feeds (argumentChars ts) = nameFeeds (namesAll ts) := by
  cases ts with
  | nil => rfl
  | cons t ts =>
    show feeds ('<' :: (t.chars ++ moreChars ts)) = nameFeeds (t.names ++ namesAll ts)
    rw [feeds_cons (by decide), feeds_append, feeds_chars t, feeds_moreChars ts,
      nameFeeds_append]

theorem feeds_moreChars (ts : List Ty) : feeds (moreChars ts) = nameFeeds (namesAll ts) := by
  cases ts with
  | nil => rfl
  | cons t ts =>
    show feeds (',' :: ' ' :: (t.chars ++ moreChars ts)) = nameFeeds (t.names ++ namesAll ts)
    rw [feeds_cons (by decide), feeds_cons (by decide), feeds_append, feeds_chars t,
      feeds_moreChars ts, nameFeeds_append]

end

end Ty

namespace Operation

/-! ### Line feeds of an entry -/

section Fields

variable {name : String} (noFeed : '\n' ∉ name.toList)

include noFeed

theorem feeds_flagField (isSet : Bool) : feeds (flagField name isSet) = 0 := by
  cases isSet with
  | false => rfl
  | true => exact feeds_eq_zero_iff.2 (List.not_mem_cons_of_ne_of_not_mem (by decide) noFeed)

/-- The line feeds of a field are those of its value. -/
theorem feeds_valueField (value : List Char) : feeds (valueField name value) = feeds value := by
  rw [valueField, feeds_cons (by decide), feeds_append, feeds_eq_zero_iff.2 noFeed, Nat.zero_add,
    feeds_cons (by decide)]

/-- A field that is absent has no line feeds. -/
theorem feeds_optionField (value? : Option (List Char)) :
    feeds (optionField name value?) = value?.elim 0 feeds := by
  cases value? with
  | none => rfl
  | some value => exact feeds_valueField noFeed value

end Fields

/-- The line feeds of the names of locals, which are not escaped. -/
theorem feeds_localsField (locals : DeclaredLocals) :
    feeds (localsField locals) = nameFeeds (locals.toList.map (·.name)) := by
  have someName : locals.toList.map (·.name.toList) ≠ [] := mt List.map_eq_nil_iff.1 locals.ne_nil
  have joined := feeds_intercalate [',', ' '] someName
  have noFeed : feeds [',', ' '] = 0 := rfl
  simp only [noFeed, Nat.add_zero, List.map_map] at joined
  rw [localsField, feeds_valueField (by decide), feeds_cons (by decide), feeds_append, joined,
    nameFeeds, List.map_map]
  rfl

/-- The line feeds of the name of a method, which is not escaped either. -/
theorem feeds_methodField (use : OperatorUse) :
    feeds (methodField use) = nameFeeds (use.method?.map (·.name)).toList := by
  rw [methodField, feeds_optionField (by decide)]
  cases use.method? with
  | none => rfl
  | some method => rfl

/-- Operators and their flags have no line feeds. -/
theorem feeds_operatorFields (use : OperatorUse) : feeds (operatorFields use) = 0 := by
  rw [operatorFields, feeds_append, feeds_append, feeds_valueField (by decide),
    feeds_flagField (by decide), feeds_flagField (by decide),
    (allPlain_operator use.operator).feeds_eq_zero]

/-- The line feeds of the fields of a variant are those of its locals and of its method. -/
theorem feeds_variantFields (op : Operation) :
    feeds op.variantFields =
      nameFeeds (op.localNames?.getD [] ++ (op.printedUse?.bind (·.methodName?)).toList) := by
  cases op with
  | variableDeclaration e locals initializer =>
    rw [variantFields, feeds_localsField, nameFeeds_append]
    rfl
  | compoundAssignmentExpression e use target value =>
    rw [variantFields, feeds_append, feeds_operatorFields, feeds_methodField, Nat.zero_add]
    rfl
  | binaryOperatorExpression e use isCompareText left right =>
    rw [variantFields, feeds_append, feeds_append, feeds_operatorFields,
      feeds_flagField (by decide), feeds_methodField, Nat.zero_add]
    rfl
  | localInitializer | conditionalExpression | expressionStatement
  | simpleAssignmentExpression | literalExpression | invalidExpression => rfl

/-- The line feeds of the fields of an envelope are those of the names in the type: constant, flag
and span have none. -/
theorem feeds_envelopeFields (e : Envelope) :
    feeds (envelopeFields e) = nameFeeds (e.type?.elim [] Ty.names) := by
  have typeFeeds : (e.type?.map Ty.chars).elim 0 feeds = nameFeeds (e.type?.elim [] Ty.names) := by
    cases e.type? with
    | none => rfl
    | some t => exact t.feeds_chars
  have constantFeeds : (e.constant?.map ConstantValue.chars).elim 0 feeds = 0 := by
    cases e.constant? with
    | none => rfl
    | some constant => exact feeds_constant constant
  rw [envelopeFields, feeds_append, feeds_append, feeds_append, feeds_optionField (by decide),
    feeds_optionField (by decide), feeds_flagField (by decide), feeds_cons (by decide),
    feeds_cons (by decide), typeFeeds, constantFeeds, (allPlain_span e.anchor.span).feeds_eq_zero]
  rfl

/-- **The line feeds of an entry are those of the names in it.** -/
theorem feeds_line (op : Operation) : feeds op.line = nameFeeds op.printedNames := by
  rw [line, feeds_append, feeds_append, (allPlain_kind op.kind).feeds_eq_zero, Nat.zero_add,
    feeds_variantFields, feeds_envelopeFields, ← nameFeeds_append]
  rfl

/-- Indentation adds no line feeds. -/
theorem feeds_indented (depth : Nat) (cs : List Char) : feeds (indented depth cs) = feeds cs := by
  have blank : '\n' ∉ List.replicate (2 * depth) ' ' :=
    fun mem => absurd (List.eq_of_mem_replicate mem) (by decide)
  rw [indented, feeds_append, feeds_eq_zero_iff.2 blank, Nat.zero_add]

end Operation

/-! ### Entries -/

/-- The entry of a place in the dump of the whole tree. -/
def Place.entry (place : Place) : List Char :=
  Operation.indented place.path.length place.node.line

/-- Depths add up. -/
theorem Operation.indented_indented (depth depth' : Nat) (cs : List Char) :
    indented depth (indented depth' cs) = indented (depth + depth') cs := by
  rw [indented, indented, indented, ← List.append_assoc, List.replicate_append_replicate,
    Nat.mul_add]

/-- The entry of a place, seen from further up, stands deeper by the path to the old root. -/
theorem Place.entry_under (above : List Nat) (place : Place) :
    (place.under above).entry = Operation.indented above.length place.entry := by
  rw [entry, entry, path_under, node_under, List.length_append, Operation.indented_indented]

namespace Operation

/-- The entries of a tree that stands at a depth are those of the tree alone, indented. -/
theorem lines_eq_map_indented (op : Operation) (depth : Nat) :
    op.lines depth = (op.lines 0).map (indented depth) := by
  induction op using induction_on_children generalizing depth with
  | step op inductionHypothesis =>
    have deeper : ∀ child ∈ op.children,
        child.lines (depth + 1) = (child.lines 1).map (indented depth) := by
      intro child isChild
      rw [inductionHypothesis child isChild (depth + 1), inductionHypothesis child isChild 1,
        List.map_map]
      exact List.map_congr_left fun cs _ => (indented_indented depth 1 cs).symm
    rw [lines_eq, lines_eq op 0, List.map_cons, indented_indented, Nat.add_zero, Nat.zero_add,
      List.map_flatMap]
    exact congrArg _ (List.flatMap_congr deeper)

/-- Below the root, each entry stands one step deeper than in the dump of its own part. -/
theorem map_entry_placesFrom {ops : List Operation}
    (each : ∀ op ∈ ops, op.places.map Place.entry = op.lines 0) (position : Nat) :
    (placesFrom position (ops.map places)).map Place.entry =
      ops.flatMap fun op => op.lines 1 := by
  induction ops generalizing position with
  | nil => rfl
  | cons op ops inductionHypothesis =>
    obtain ⟨first, others⟩ := List.forall_mem_cons.1 each
    have deeper : (op.places.map (Place.under [position])).map Place.entry = op.lines 1 := by
      rw [lines_eq_map_indented, ← first, List.map_map, List.map_map]
      exact List.map_congr_left fun place _ => place.entry_under [position]
    rw [List.map_cons, placesFrom, List.map_append, deeper, inductionHypothesis others,
      List.flatMap_cons]

/-- **The entries of a dump are those of the places**, in the order of the places. -/
theorem lines_eq_map_places (op : Operation) : op.lines 0 = op.places.map Place.entry := by
  induction op using induction_on_children with
  | step op inductionHypothesis =>
    have below := map_entry_placesFrom
      (fun child isChild => (inductionHypothesis child isChild).symm) 0
    rw [places_eq, List.map_cons, below, lines_eq]
    rfl

/-- **The entries of a part stand together** in the dump, and are the dump of the part alone
with the depth of the part put before each entry. -/
theorem lines_eq_of_at? {op node : Operation} {path : List Nat}
    (found : op.at? path = some node) :
    ∃ before after, op.places = before ++ node.places.map (Place.under path) ++ after ∧
      op.lines 0 = before.map Place.entry ++ (node.lines 0).map (indented path.length) ++
        after.map Place.entry := by
  obtain ⟨before, after, together⟩ := places_eq_of_at? found
  have entries : (node.places.map (Place.under path)).map Place.entry =
      (node.lines 0).map (indented path.length) := by
    rw [lines_eq_map_places, List.map_map, List.map_map]
    exact List.map_congr_left fun place _ => place.entry_under path
  refine ⟨before, after, together, ?_⟩
  rw [lines_eq_map_places, together, List.map_append, List.map_append, entries]

/-! ### Line feeds of a dump -/

/-- The line feeds of the names that the dump of a tree shows. -/
def shownFeeds (op : Operation) : Nat :=
  total (op.preorder.map fun node => nameFeeds node.printedNames)

/-- The names that a dump shows have no line feeds exactly if none of them has one. -/
theorem shownFeeds_eq_zero_iff {op : Operation} :
    op.shownFeeds = 0 ↔
      ∀ node ∈ op.preorder, ∀ name ∈ node.printedNames, '\n' ∉ name.toList := by
  rw [shownFeeds, total_eq_zero_iff, List.forall_mem_map]
  simp only [nameFeeds_eq_zero_iff]

/-- The line feeds of an entry are those of the names that the operation shows. -/
theorem feeds_entry (place : Place) :
    feeds place.entry = nameFeeds place.node.printedNames := by
  rw [Place.entry, feeds_indented, feeds_line]

/-- A dump has a line feed between any two entries, and those of the names. -/
theorem feeds_dump (op : Operation) :
    feeds op.dump.toList + 1 = op.size + op.shownFeeds := by
  have someEntry : op.lines 0 ≠ [] := lines_eq op 0 ▸ List.cons_ne_nil _ _
  have joined := feeds_intercalate ['\n'] someEntry
  have oneFeed : feeds ['\n'] = 1 := rfl
  have entries : (op.lines 0).map feeds =
      op.preorder.map fun node => nameFeeds node.printedNames := by
    rw [lines_eq_map_places, ← map_node_places, List.map_map, List.map_map]
    exact List.map_congr_left fun place _ => feeds_entry place
  rw [oneFeed, total_map_succ, entries, ← shownFeeds, lines_eq_map_places, List.length_map,
    length_places] at joined
  rw [dump, String.toList_ofList, lines_eq_map_places, joined, Nat.add_comm]

/-! ### Agreement -/

/-- An entry begins with two blanks for each step of depth and goes on with the kind. -/
theorem indentation_entry (place : Place) :
    indentation place.entry = 2 * place.path.length ∧
      place.node.kind.name.toList <+: place.entry.drop (2 * place.path.length) := by
  refine ⟨indentation_indented place.node place.path.length, ?_⟩
  rw [Place.entry, indented, line, List.append_assoc,
    List.drop_left' (List.length_replicate ..)]
  exact List.prefix_append _ _

/-- **Dump and traversal agree.**  The entries of a dump are as many as the root and the
operations below it, and each entry is that of the operation that the traversal returns at
the same time.

* The places are all paths that lead anywhere, in dictionary order, and what stands there
  is the root followed by what the traversal returns.
* The entries are those of the places: an entry begins with two blanks for each step of the
  path and with the kind.
* The entries of a part stand together, and are those of the dump of the part alone with
  two blanks for each step of the path put before them.
* The text has a line feed for each operation below the root and one for each in a shown
  name.  So it has one line for each operation exactly when no shown name holds a line
  feed; no constant ever adds one. -/
theorem dump_follows_traversal (op : Operation) :
    ((op.lines 0).length = 1 + op.descendants.length ∧
      op.places.map Place.node = op :: op.descendants ∧
      (∀ place, place ∈ op.places ↔ op.at? place.path = some place.node) ∧
      op.places.Pairwise fun place place' => place.path < place'.path) ∧
    (op.lines 0 = op.places.map Place.entry ∧
      ∀ place : Place, indentation place.entry = 2 * place.path.length ∧
        place.node.kind.name.toList <+: place.entry.drop (2 * place.path.length)) ∧
    (∀ path node, op.at? path = some node →
      ∃ before after, op.places = before ++ node.places.map (Place.under path) ++ after ∧
        op.lines 0 = before.map Place.entry ++ (node.lines 0).map (indented path.length) ++
          after.map Place.entry) ∧
    (feeds op.dump.toList = op.descendants.length +
        total ((op :: op.descendants).map fun node => nameFeeds node.printedNames) ∧
      (feeds op.dump.toList = op.descendants.length ↔
        ∀ node ∈ op :: op.descendants, ∀ name ∈ node.printedNames, '\n' ∉ name.toList) ∧
      ∀ constant : ConstantValue, '\n' ∉ constant.chars) := by
  have visited := op.preorder_eq_cons_descendants
  have number : op.size = 1 + op.descendants.length := by
    rw [← length_preorder, visited, List.length_cons, Nat.add_comm]
  have textFeeds : feeds op.dump.toList = op.descendants.length + op.shownFeeds := by
    have counted := op.feeds_dump
    omega
  refine ⟨⟨?_, ?_, fun _ => mem_places_iff, op.places_pairwise⟩,
    ⟨op.lines_eq_map_places, indentation_entry⟩, fun _ _ => lines_eq_of_at?, ?_, ?_, ?_⟩
  · rw [lines_eq_map_places, List.length_map, length_places, number]
  · rw [map_node_places, visited]
  · rw [textFeeds, shownFeeds, visited]
  · rw [textFeeds, Nat.add_eq_left, shownFeeds_eq_zero_iff, visited]
  · exact fun constant => feeds_eq_zero_iff.1 (feeds_constant constant)

/-- The declaration of a local whose name holds a line feed, with a line feed as its value. -/
def splitName : Operation :=
  declare .never (.single ⟨"a\nb", .string, false⟩)
    (some (.literal (.string "\n") (some .string) ⟨0, "path"⟩ (.root "literal" ⟨4, 8⟩) false))
    ⟨0, "path"⟩ (.root "declarator" ⟨0, 8⟩)

/-- The dump of three operations with one line feed in a name: four lines, although the constant
holds a line feed as well. -/
theorem dump_follows_traversal_splitName :
    ∃ initializer, splitName.at? [0] = some initializer ∧
      (∃ before after,
        splitName.places = before ++ initializer.places.map (Place.under [0]) ++ after ∧
          splitName.lines 0 = before.map Place.entry ++ (initializer.lines 0).map (indented 1) ++
            after.map Place.entry) ∧
      feeds splitName.dump.toList = 2 + 1 := by
  obtain ⟨⟨entries, -⟩, -, parts, counted, -⟩ := dump_follows_traversal splitName
  have two : splitName.descendants.length = 2 := by
    have three : (splitName.lines 0).length = 3 := rfl
    omega
  have one : total (splitName.preorder.map fun node => nameFeeds node.printedNames) = 1 := by
    decide
  rw [two, ← preorder_eq_cons_descendants, one] at counted
  exact ⟨_, rfl, parts [0] _ rfl, counted⟩

end Operation

end BoundTree
