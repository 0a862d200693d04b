import BoundTree.Operation.Dump
import BoundTree.Proofs.Traversal

/-!
# Places in a tree

Equal operations may occur at several places of one tree.  What tells the places apart is
the path of child positions that leads to them, and the length of that path is the depth.
Listing all places from top to bottom gives the pre-order with a path at each operation.

**Pre-order is dictionary order.**  A path comes before its extensions, and of two paths
that part, the one that parts to the left comes first.  So the listing is strictly
increasing, and every path that leads anywhere occurs in it exactly once.

**What is below a place stands together.**  The listing of a tree contains the listing of
each part of it without a gap, with the path to the part put before each path.

## Main definitions

* `Place` — a path and the operation that it leads to
* `Operation.places` — all places of a tree

## Main statements

* `Operation.map_node_places` — the operations at the places are the pre-order
* `Operation.mem_places_iff` — the places are the paths that lead anywhere
* `Operation.places_pairwise` — the listing is in dictionary order
* `Operation.places_eq_of_at?` — the places of a part stand together
-/

namespace BoundTree

/-- A place in a tree: the path of child positions that leads there, and the operation
that stands there. -/
structure Place where
  path : List Nat
  node : Operation

namespace Place

/-- The place as seen from further up, with the path from there to the old root. -/
def under (above : List Nat) (place : Place) : Place :=
  ⟨above ++ place.path, place.node⟩

@[simp]
theorem path_under (above : List Nat) (place : Place) :
    (place.under above).path = above ++ place.path :=
  rfl

@[simp]
theorem node_under (above : List Nat) (place : Place) : (place.under above).node = place.node :=
  rfl

theorem map_under_nil (places : List Place) : places.map (under []) = places :=
  List.map_id places

/-- Seeing a place from further up twice is seeing it from the end of both paths. -/
theorem under_under (above path : List Nat) (place : Place) :
    (place.under path).under above = place.under (above ++ path) := by
  rw [under, under, under, List.append_assoc]

end Place

namespace Operation

/-- The places inside of the children from a position on, given the places inside of each. -/
def placesFrom : Nat → List (List Place) → List Place
  | _, [] => []
  | position, inside :: others =>
    inside.map (Place.under [position]) ++ placesFrom (position + 1) others

/-- All places of a tree, from top to bottom. -/
def places : Operation → List Place :=
  fold fun op inside => ⟨[], op⟩ :: placesFrom 0 inside

/-- The places of a tree are its root and those inside of the children, from left to right. -/
theorem places_eq (op : Operation) :
    op.places = ⟨[], op⟩ :: placesFrom 0 (op.children.map places) :=
  fold_eq _ op

/-! ### The operations at the places -/

/-- What stands inside of the children, given this for each child. -/
theorem map_node_placesFrom {ops : List Operation}
    (each : ∀ op ∈ ops, op.places.map Place.node = op.preorder) (position : Nat) :
    (placesFrom position (ops.map places)).map Place.node = ops.flatMap preorder := by
  induction ops generalizing position with
  | nil => rfl
  | cons op ops inductionHypothesis =>
    obtain ⟨first, others⟩ := List.forall_mem_cons.1 each
    have sameNodes : (op.places.map (Place.under [position])).map Place.node =
        op.places.map Place.node :=
      List.map_map
    rw [List.map_cons, placesFrom, List.map_append, sameNodes, first,
      inductionHypothesis others, List.flatMap_cons]

/-- The operations at the places of a tree are its pre-order. -/
theorem map_node_places (op : Operation) : op.places.map Place.node = op.preorder := by
  induction op using induction_on_children with
  | step op inductionHypothesis =>
    rw [places_eq, List.map_cons, map_node_placesFrom inductionHypothesis, preorder_eq]

theorem length_places (op : Operation) : op.places.length = op.size := by
  rw [← length_preorder, ← map_node_places, List.length_map]

/-! ### The places of a part -/

/-- The places inside of one child stand together among those inside of all children. -/
theorem placesFrom_eq_of_getElem? {insides : List (List Place)} {inside : List Place}
    {index : Nat} (found : insides[index]? = some inside) (position : Nat) :
    ∃ before after, placesFrom position insides =
      before ++ inside.map (Place.under [position + index]) ++ after := by
  induction insides generalizing index position with
  | nil => contradiction
  | cons first others inductionHypothesis =>
    cases index with
    | zero =>
      obtain rfl := Option.some.inj found
      exact ⟨[], placesFrom (position + 1) others, rfl⟩
    | succ index =>
      obtain ⟨before, after, split⟩ := inductionHypothesis found (position + 1)
      refine ⟨first.map (Place.under [position]) ++ before, after, ?_⟩
      rw [placesFrom, split, Nat.add_right_comm, Nat.add_assoc]
      simp only [List.append_assoc]

/-- **The places of a part stand together** among those of the tree. -/
theorem places_eq_of_at? {op node : Operation} {path : List Nat}
    (found : op.at? path = some node) :
    ∃ before after, op.places = before ++ node.places.map (Place.under path) ++ after := by
  induction path generalizing op with
  | nil =>
    obtain rfl := Option.some.inj found
    refine ⟨[], [], ?_⟩
    rw [Place.map_under_nil, List.append_nil, List.nil_append]
  | cons position path inductionHypothesis =>
    obtain ⟨child, isChild, below⟩ := Option.bind_eq_some_iff.1 found
    obtain ⟨before, after, inChild⟩ := inductionHypothesis below
    have isInside : (op.children.map places)[position]? = some child.places := by
      rw [List.getElem?_map, isChild, Option.map_some]
    obtain ⟨left, right, inTree⟩ := placesFrom_eq_of_getElem? isInside 0
    rw [Nat.zero_add, inChild, List.map_append, List.map_append, List.map_map] at inTree
    refine ⟨⟨[], op⟩ :: (left ++ before.map (Place.under [position])),
      after.map (Place.under [position]) ++ right, ?_⟩
    rw [places_eq, inTree]
    simp [Function.comp_def, Place.under_under]

/-! ### Which places there are -/

/-- A place inside of the children is a place inside of one of them. -/
theorem exists_of_mem_placesFrom {insides : List (List Place)} {place : Place} {position : Nat}
    (mem : place ∈ placesFrom position insides) :
    ∃ index inside, insides[index]? = some inside ∧
      ∃ inner ∈ inside, Place.under [position + index] inner = place := by
  induction insides generalizing position with
  | nil => contradiction
  | cons first others inductionHypothesis =>
    rcases List.mem_append.1 mem with inFirst | inOthers
    · obtain ⟨inner, isInside, same⟩ := List.mem_map.1 inFirst
      exact ⟨0, first, rfl, inner, isInside, same⟩
    · obtain ⟨index, inside, found, inner, isInside, same⟩ := inductionHypothesis inOthers
      refine ⟨index + 1, inside, found, inner, isInside, ?_⟩
      rw [← same, Nat.add_assoc, Nat.add_comm 1]

theorem at?_of_mem_places {op : Operation} {place : Place} (mem : place ∈ op.places) :
    op.at? place.path = some place.node := by
  induction op using induction_on_children generalizing place with
  | step op inductionHypothesis =>
    rw [places_eq] at mem
    rcases List.mem_cons.1 mem with rfl | below
    · rfl
    · obtain ⟨position, inside, found, inner, isInside, rfl⟩ := exists_of_mem_placesFrom below
      rw [List.getElem?_map] at found
      obtain ⟨child, isChild, rfl⟩ := Option.map_eq_some_iff.1 found
      have reached := inductionHypothesis child (List.mem_of_getElem? isChild) isInside
      rw [Place.path_under, Nat.zero_add, List.singleton_append, at?, isChild,
        Option.bind_some, reached, Place.node_under]

/-- **The places of a tree are the paths that lead anywhere**, with what they lead to. -/
theorem mem_places_iff {op : Operation} {place : Place} :
    place ∈ op.places ↔ op.at? place.path = some place.node := by
  refine ⟨at?_of_mem_places, fun found => ?_⟩
  obtain ⟨before, after, split⟩ := places_eq_of_at? found
  have atTop : place ∈ place.node.places.map (Place.under place.path) := by
    rw [places_eq, List.map_cons, Place.under, List.append_nil]
    exact List.mem_cons_self
  rw [split]
  exact List.mem_append_left _ (List.mem_append_right _ atTop)

/-! ### The order of the places -/

/-- The places inside of the children are in order if those inside of each child are. -/
theorem placesFrom_pairwise {insides : List (List Place)}
    (each : ∀ inside ∈ insides, inside.Pairwise fun place place' => place.path < place'.path)
    (position : Nat) :
    (placesFrom position insides).Pairwise fun place place' => place.path < place'.path := by
  induction insides generalizing position with
  | nil => exact .nil
  | cons first others inductionHypothesis =>
    obtain ⟨firstSorted, othersSorted⟩ := List.forall_mem_cons.1 each
    rw [placesFrom, List.pairwise_append]
    refine ⟨?_, inductionHypothesis othersSorted (position + 1), ?_⟩
    · -- one more position at the front of all paths keeps their order
      refine List.pairwise_map.2 (firstSorted.imp fun {place place'} before => ?_)
      exact List.cons_lt_cons_iff.2 (Or.inr ⟨rfl, before⟩)
    · -- the paths part at the front, and the first child stands to the left
      intro place inFirst place' inOthers
      obtain ⟨inner, -, rfl⟩ := List.mem_map.1 inFirst
      obtain ⟨index, inside, -, inner', -, rfl⟩ := exists_of_mem_placesFrom inOthers
      exact List.cons_lt_cons_iff.2 (Or.inl (by omega))

/-- **The places are listed in dictionary order** of their paths. -/
theorem places_pairwise (op : Operation) :
    op.places.Pairwise fun place place' => place.path < place'.path := by
  induction op using induction_on_children with
  | step op inductionHypothesis =>
    rw [places_eq, List.pairwise_cons]
    refine ⟨fun place below => ?_, placesFrom_pairwise ?_ 0⟩
    · obtain ⟨index, inside, -, inner, -, rfl⟩ := exists_of_mem_placesFrom below
      exact List.nil_lt_cons _ _
    · intro inside isInside
      obtain ⟨child, isChild, rfl⟩ := List.mem_map.1 isInside
      exact inductionHypothesis child isChild

end Operation

end BoundTree
