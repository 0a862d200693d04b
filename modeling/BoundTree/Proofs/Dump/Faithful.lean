import BoundTree.Proofs.Agreement
import BoundTree.Proofs.Assembly
import BoundTree.Proofs.Dump.Printed

/-!
# Dumps are faithful

A dump has one line for each operation, and the depth of a line is all that tells which
operation it is below.  That is enough: the lines below an operation are the ones that
follow it up to the first that stands no deeper.

**The layout loses nothing.**  Whatever follows, as long as it does not stand deeper, the
lines of an operation determine its shape and every line in it.  This needs nothing but
that no line begins with a blank.

**A dump determines what it shows**, when names keep to letters, digits and underscores:
then no line holds a line feed, and every line can be read.

## Main definitions

* `Operation.Shallow` — what follows stands left of a depth
* `Operation.HasPlainNames` — the names that a dump shows are plain

## Main statements

* `Operation.lines_append_inj` — the layout loses nothing
* `Operation.dump_faithful` — dumps are equal when, and for plain names only when, all that
  they show is
-/

namespace BoundTree

namespace Operation

theorem mem_preorder_of_at? {op node : Operation} {path : List Nat}
    (found : op.at? path = some node) : node ∈ op.preorder := by
  induction path generalizing op with
  | nil =>
    obtain rfl := Option.some.inj found
    exact self_mem_preorder _
  | cons position path inductionHypothesis =>
    obtain ⟨child, isChild, below⟩ := Option.bind_eq_some_iff.1 found
    exact mem_preorder_trans (inductionHypothesis below)
      (mem_preorder_of_mem_children (List.mem_of_getElem? isChild))

/-! ### The layout -/

/-- The number of blanks that a line begins with. -/
def indentation (cs : List Char) : Nat :=
  (cs.takeWhile (· == ' ')).length

/-- The first of some lines, if there is one, stands left of a depth. -/
def Shallow (depth : Nat) (lines : List (List Char)) : Prop :=
  ∀ first ∈ lines.head?, indentation first < 2 * depth

/-- A line begins with the name of a variant, never with a blank. -/
theorem line_ne_blank_cons (op : Operation) (cs : List Char) : op.line ≠ ' ' :: cs := by
  have letters : ∀ kind : OperationKind, ∃ c others, kind.name.toList = c :: others ∧ c ≠ ' ' := by
    intro kind
    cases kind <;> exact ⟨_, _, rfl, by decide⟩
  obtain ⟨c, others, starts, notBlank⟩ := letters op.kind
  rw [line, starts]
  exact fun same => notBlank (List.cons.inj same).1

/-- The depth of an entry can be read off its indentation. -/
theorem indentation_indented (op : Operation) (depth : Nat) :
    indentation (indented depth op.line) = 2 * depth := by
  have noMore : op.line.takeWhile (· == ' ') = [] := by
    cases shown : op.line with
    | nil => rfl
    | cons c cs =>
      have notBlank : c ≠ ' ' := fun isBlank => op.line_ne_blank_cons cs (isBlank ▸ shown)
      simp [notBlank]
  rw [indentation, indented, List.takeWhile_append_of_pos (by simp), noMore, List.append_nil,
    List.length_replicate]

theorem shallow_nil (depth : Nat) : Shallow depth [] :=
  fun _ mem => absurd mem (by simp)

/-- The entries of a tree at a depth begin with one that is no less deep. -/
theorem not_shallow_lines (op : Operation) (depth : Nat) (rest : List (List Char)) :
    ¬ Shallow depth (op.lines depth ++ rest) := by
  intro shallow
  rw [lines_eq] at shallow
  have left := shallow _ rfl
  rw [indentation_indented] at left
  exact Nat.lt_irrefl _ left

/-- What follows the lines of some trees stands left of everything below them. -/
theorem shallow_flatMap_lines {ops : List Operation} {depth : Nat} {rest : List (List Char)}
    (shallow : Shallow depth rest) :
    Shallow (depth + 1) (ops.flatMap (fun op => op.lines depth) ++ rest) := by
  intro first isFirst
  cases ops with
  | nil =>
    have left := shallow first isFirst
    omega
  | cons op ops =>
    rw [List.flatMap_cons, lines_eq] at isFirst
    obtain rfl := Option.some.inj isFirst
    rw [indentation_indented]
    omega

/-- The layout of a list of trees loses nothing if that of each one does not. -/
theorem flatMap_lines_append_inj {ops ops' : List Operation} {depth : Nat}
    {rest rest' : List (List Char)}
    (each : ∀ op ∈ ops, ∀ op' rest rest', Shallow (depth + 1) rest → Shallow (depth + 1) rest' →
      op.lines depth ++ rest = op'.lines depth ++ rest' →
        AgreeOn line op op' ∧ rest = rest')
    (shallow : Shallow depth rest) (shallow' : Shallow depth rest')
    (same : ops.flatMap (fun op => op.lines depth) ++ rest =
      ops'.flatMap (fun op => op.lines depth) ++ rest') :
    AgreeOnAll line ops ops' ∧ rest = rest' := by
  induction ops generalizing ops' with
  | nil =>
    cases ops' with
    | nil => exact ⟨agreeOnAll_nil, same⟩
    | cons op' ops' =>
      -- a tree more would put a line where what follows stands left of it
      rw [List.flatMap_cons, List.append_assoc] at same
      have starts : rest = _ := same
      exact absurd (starts ▸ shallow) (not_shallow_lines op' depth _)
  | cons op ops inductionHypothesis =>
    rw [List.flatMap_cons, List.append_assoc] at same
    cases ops' with
    | nil =>
      have starts : rest' = _ := same.symm
      exact absurd (starts ▸ shallow') (not_shallow_lines op depth _)
    | cons op' ops' =>
      rw [List.flatMap_cons, List.append_assoc] at same
      obtain ⟨first, others⟩ := each op List.mem_cons_self op' _ _
        (shallow_flatMap_lines shallow) (shallow_flatMap_lines shallow') same
      obtain ⟨below, rests⟩ := inductionHypothesis
        (fun op mem => each op (List.mem_cons_of_mem _ mem)) others
      exact ⟨agreeOnAll_cons_iff.2 ⟨first, below⟩, rests⟩

/-- **The layout loses nothing**, whatever follows that stands no deeper. -/
theorem lines_append_inj {op op' : Operation} {depth : Nat} {rest rest' : List (List Char)}
    (shallow : Shallow (depth + 1) rest) (shallow' : Shallow (depth + 1) rest')
    (same : op.lines depth ++ rest = op'.lines depth ++ rest') :
    AgreeOn line op op' ∧ rest = rest' := by
  induction op using induction_on_children generalizing op' depth rest rest' with
  | step op inductionHypothesis =>
    rw [lines_eq, lines_eq, List.cons_append, List.cons_append] at same
    -- the lines of the children end where the first line stands no deeper than the parent
    obtain ⟨first, others⟩ := List.cons.inj same
    have sameLine : op.line = op'.line := List.append_cancel_left first
    obtain ⟨below, rests⟩ := flatMap_lines_append_inj
      (fun child isChild _ _ _ => inductionHypothesis child isChild) shallow shallow' others
    exact ⟨agreeOn_iff.2 ⟨sameLine, below⟩, rests⟩

theorem flatMap_lines_eq {ops ops' : List Operation} {depth : Nat}
    (each : ∀ op ∈ ops, ∀ op', AgreeOn line op op' → op.lines depth = op'.lines depth)
    (agree : AgreeOnAll line ops ops') :
    (ops.flatMap fun op => op.lines depth) = ops'.flatMap fun op => op.lines depth := by
  induction ops generalizing ops' with
  | nil =>
    cases ops' with
    | nil => rfl
    | cons op' ops' => exact absurd agree not_agreeOnAll_nil_cons
  | cons op ops inductionHypothesis =>
    cases ops' with
    | nil => exact absurd agree not_agreeOnAll_cons_nil
    | cons op' ops' =>
      obtain ⟨first, others⟩ := agreeOnAll_cons_iff.1 agree
      rw [List.flatMap_cons, List.flatMap_cons, each op List.mem_cons_self op' first,
        inductionHypothesis (fun op mem => each op (List.mem_cons_of_mem _ mem)) others]

/-- Trees with the same lines in the same places have the same layout. -/
theorem lines_eq_of_agreeOn {op op' : Operation} (agree : AgreeOn line op op') (depth : Nat) :
    op.lines depth = op'.lines depth := by
  induction op using induction_on_children generalizing op' depth with
  | step op inductionHypothesis =>
    obtain ⟨sameLine, below⟩ := agreeOn_iff.1 agree
    have layout : (op.children.flatMap fun child => child.lines (depth + 1)) = _ :=
      flatMap_lines_eq
        (fun child isChild _ same => inductionHypothesis child isChild same (depth + 1)) below
    rw [lines_eq, lines_eq, sameLine, layout]

/-! ### Faithful dumps -/

/-- All names that the dump of a tree shows consist of letters, digits and underscores. -/
def HasPlainNames (op : Operation) : Prop :=
  ∀ node ∈ op.preorder, ∀ name ∈ node.printedNames, IsPlainName name

theorem mem_intercalate {c : Char} {stop : List Char} {texts : List (List Char)}
    (mem : c ∈ stop.intercalate texts) : c ∈ stop ∨ ∃ text ∈ texts, c ∈ text := by
  cases texts with
  | nil => contradiction
  | cons text texts =>
    rw [intercalate_cons, List.mem_append, List.mem_flatMap] at mem
    rcases mem with first | ⟨later, inTexts, mem⟩
    · exact Or.inr ⟨text, List.mem_cons_self, first⟩
    · rcases List.mem_append.1 mem with inStop | inText
      · exact Or.inl inStop
      · exact Or.inr ⟨later, List.mem_cons_of_mem _ inTexts, inText⟩

theorem no_line_feed_line {op : Operation}
    (plain : ∀ name ∈ op.printedNames, IsPlainName name) : '\n' ∉ op.line := by
  intro mem
  rw [line_eq] at mem
  rcases mem_intercalate mem with isBlank | ⟨word, isWord, inWord⟩
  · exact absurd isBlank (by decide)
  · exact (sealed_words plain word isWord).no_line_feed inWord

/-- With plain names, no line of a dump holds a line feed. -/
theorem HasPlainNames.no_line_feed {op : Operation} (plain : op.HasPlainNames) (depth : Nat) :
    ∀ cs ∈ op.lines depth, '\n' ∉ cs := by
  induction op using induction_on_children generalizing depth with
  | step op inductionHypothesis =>
    rw [lines_eq, List.forall_mem_cons]
    constructor
    · rw [indented, List.mem_append]
      rintro (isBlank | inLine)
      · exact absurd (List.eq_of_mem_replicate isBlank) (by decide)
      · exact no_line_feed_line (plain op (self_mem_preorder op)) inLine
    · intro cs mem
      obtain ⟨child, isChild, isLine⟩ := List.mem_flatMap.1 mem
      have plainChild : child.HasPlainNames := fun node inside =>
        plain node (mem_preorder_trans inside (mem_preorder_of_mem_children isChild))
      exact inductionHypothesis child isChild plainChild (depth + 1) cs isLine

/-- Dumps of plain names are equal only when all lines are, place by place. -/
theorem agreeOn_line_of_dump_eq {op op' : Operation} (plain : op.HasPlainNames)
    (plain' : op'.HasPlainNames) (same : op.dump = op'.dump) : AgreeOn line op op' := by
  have someLine : ∀ op : Operation, op.lines 0 ≠ [] :=
    fun op => lines_eq op 0 ▸ List.cons_ne_nil _ _
  have texts := String.ofList_injective same
  have layout := lines_inj (someLine op) (someLine op') (plain.no_line_feed 0)
    (plain'.no_line_feed 0) texts
  have followed : op.lines 0 ++ [] = op'.lines 0 ++ [] := by
    rw [layout]
  exact (lines_append_inj (shallow_nil 1) (shallow_nil 1) followed).1

/-- **Dumps are faithful.**  Two operations whose trees have one shape and show the same
in each place have the same dump.  When the names that they show are plain, equal dumps
come from such operations only. -/
theorem dump_faithful (op op' : Operation) :
    (AgreeOn printed op op' → op.dump = op'.dump) ∧
      (op.HasPlainNames → op'.HasPlainNames → op.dump = op'.dump → AgreeOn printed op op') := by
  constructor
  · intro agree
    have sameLines : AgreeOn line op op' := by
      intro path
      have lineOf : (fun shown : Printed => [' '].intercalate shown.words) ∘ printed = line :=
        funext fun op => op.line_eq.symm
      rw [← lineOf, ← Option.map_map, agree path, Option.map_map]
    rw [dump, dump, lines_eq_of_agreeOn sameLines 0]
  · intro plain plain' same path
    have sameLine := agreeOn_line_of_dump_eq plain plain' same path
    -- a place that is empty in one tree is empty in the other
    cases found : op.at? path with
    | none =>
      rw [found] at sameLine
      rw [Option.map_none, Option.map_eq_none_iff.1 sameLine.symm, Option.map_none]
    | some node =>
      rw [found, Option.map_some] at sameLine
      obtain ⟨node', found', lines⟩ := Option.map_eq_some_iff.1 sameLine.symm
      rw [found', Option.map_some, Option.map_some]
      exact congrArg some (printed_eq_of_line_eq (plain node (mem_preorder_of_at? found))
        (plain' node' (mem_preorder_of_at? found')) lines.symm)

/-- A text appended by a user-defined operator to a target that could not be resolved,
bound in a given session from syntax of a given kind. -/
def sampleAppend (id : Nat) (syntaxKind : String) (parameters : List Ty) : Operation :=
  let model : Model := ⟨id, "path"⟩
  let texts : Ty := .named "Set" [.string, .nullable .int32]
  assignWith (.invalidEmpty model (.root syntaxKind ⟨0, 1⟩) true)
    (.literal (.string "a, \"b\" @1") (some texts) model (.root syntaxKind ⟨5, 8⟩) false)
    .concatenate false true (some ⟨"op_Join", texts, parameters, texts⟩) model
    (.root syntaxKind ⟨0, 8⟩) false

/-- Two statements that differ only in what a dump does not show: sessions, kinds of elements and
the signature of a method. -/
theorem dump_faithful_sampleAppend :
    (sampleAppend 0 "statement" []).HasPlainNames ∧
      (sampleAppend 1 "clause" [.char]).HasPlainNames ∧
      AgreeOn printed (sampleAppend 0 "statement" []) (sampleAppend 1 "clause" [.char]) ∧
      (sampleAppend 0 "statement" []).dump = (sampleAppend 1 "clause" [.char]).dump := by
  have agree : AgreeOn printed (sampleAppend 0 "statement" [])
      (sampleAppend 1 "clause" [.char]) := by
    refine agreeOn_iff.2 ⟨rfl, agreeOnAll_cons_iff.2 ⟨agreeOn_iff.2 ⟨rfl, ?_⟩, agreeOnAll_nil⟩⟩
    refine agreeOnAll_cons_iff.2 ⟨agreeOn_iff.2 ⟨rfl, agreeOnAll_nil⟩, ?_⟩
    exact agreeOnAll_cons_iff.2 ⟨agreeOn_iff.2 ⟨rfl, agreeOnAll_nil⟩, agreeOnAll_nil⟩
  have plain : ∀ id syntaxKind parameters,
      (sampleAppend id syntaxKind parameters).HasPlainNames := by
    intro id syntaxKind parameters node inside
    simp only [sampleAppend, assignWith, statementOf, invalidEmpty, invalid, literal, preorder,
      preorderAll, List.singleton_append, List.mem_cons, List.not_mem_nil, or_false] at inside
    rcases inside with rfl | rfl | rfl | rfl
    · exact (by decide : ∀ name ∈ [], IsPlainName name)
    · exact (by decide : ∀ name ∈ ["op_Join"], IsPlainName name)
    · exact (by decide : ∀ name ∈ [], IsPlainName name)
    · exact (by decide : ∀ name ∈ ["Set"], IsPlainName name)
  have same := (dump_faithful _ _).1 agree
  exact ⟨plain _ _ _, plain _ _ _,
    (dump_faithful _ _).2 (plain _ _ _) (plain _ _ _) same, same⟩

end Operation

end BoundTree
