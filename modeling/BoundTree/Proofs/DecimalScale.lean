import BoundTree.Proofs.Json.RoundTrip
import BoundTree.Proofs.Provenance

/-!
# The scale of a decimal

A decimal literal carries a scale of at most `Decimal.maxScale`.  `Decimal.ofParts?`
keeps that bound; reading does not, as it asks only that storage can hold the parts.

**Assembly adds no constant.**  The constant of an operation was given to a literal, or it
is the constant of the value that an initializer holds, which was there before.  So the
decimals on the operations of a run are those that its literals were given: made decimals
never lead to one beyond the bound, and one that was read is found wherever it was put.

## Main definitions

* `Decimal.IsMade`, `Decimal.IsRead`, `Decimal.IsFoundFrom` — the ways to come by a decimal

## Main statements

* `Decimal.isFoundFrom_iff` — the decimals on operations are those that literals are given
* `Decimal.scale_law` — where the bound on the scale holds, and where it does not
-/

namespace BoundTree

/-! ### Decimals that are made, read and found -/

/-- A call that makes a literal of a constant and knows nothing else about it. -/
def BuildCall.bareLiteral (constant : ConstantValue) : BuildCall :=
  .literal constant none ⟨0, ""⟩ (.root "" ⟨0, 0⟩) false

/-- A reader gives a value back from its written form alone. -/
theorem ReadsBack.exists_text {α : Type} {read : String → Option α} {text : List Char}
    {value : α} (readsBack : ReadsBack read text value) : ∃ text, read text = some value := by
  have noSpace : ∀ c ∈ ([] : List Char), Json.isSpace c = true := List.forall_mem_nil _
  exact ⟨_, (readsBack [] noSpace).1 [] noSpace⟩

namespace Decimal

/-- The decimal is made from some parts. -/
def IsMade (d : Decimal) : Prop :=
  ∃ mantissa scale, ofParts? mantissa scale = some d

/-- The decimal is read from some text, alone or as a constant. -/
def IsRead (d : Decimal) : Prop :=
  (∃ text, read? text = some d) ∨ ∃ text, ConstantValue.read? text = some (.decimal d)

/-- The decimal is the constant of an operation, somewhere in the results of a run whose
literals are given decimals of a given source only. -/
def IsFoundFrom (source : Decimal → Prop) (d : Decimal) : Prop :=
  ∃ calls, BuildRun calls ∧
    (∀ call ∈ calls, ∀ given, call.given? = some (.decimal given) → source given) ∧
    ∃ call ∈ calls, ∃ node ∈ call.result.preorder, node.constant? = some (.decimal d)

/-- The decimals that can be made are those with a scale up to the bound. -/
theorem isMade_iff {d : Decimal} : d.IsMade ↔ d.scale ≤ maxScale := by
  constructor
  · rintro ⟨mantissa, scale, made⟩
    obtain ⟨allowed, _, rfl⟩ := ofParts?_eq_some_iff.1 made
    exact allowed
  · intro allowed
    exact ⟨d.mantissa, d.scale, ofParts?_eq_some_iff.2 ⟨allowed, rfl, rfl⟩⟩

/-- **The decimals on operations are those of the literals**, whatever their source. -/
theorem isFoundFrom_iff {source : Decimal → Prop} {d : Decimal} :
    d.IsFoundFrom source ↔ source d := by
  constructor
  · rintro ⟨calls, run, fromSource, call, called, node, inside, has⟩
    obtain ⟨origin, isCall, given⟩ :=
      run.exists_gives call called node inside (.constant (.decimal d)) has
    exact fromSource origin isCall d given
  · intro isSource
    have run : BuildRun [.bareLiteral (.decimal d)] := .cons (List.forall_mem_nil _) .nil
    have fromSource : ∀ call ∈ [BuildCall.bareLiteral (.decimal d)], ∀ given,
        call.given? = some (.decimal given) → source given := by
      intro call isCall given isGiven
      rw [List.mem_singleton.1 isCall] at isGiven
      cases isGiven
      exact isSource
    exact ⟨_, run, fromSource, _, List.mem_singleton_self _, _,
      Operation.self_mem_preorder _, rfl⟩

/-- Every decimal that storage holds is read from a text. -/
theorem exists_read (d : Decimal) : ∃ text, read? text = some d :=
  d.readsBack.exists_text

/-- So is the constant of every decimal. -/
theorem exists_read_constant (d : Decimal) :
    ∃ text, ConstantValue.read? text = some (.decimal d) := by
  have stored : ¬ (ConstantValue.decimal d).IsFloating := id
  obtain ⟨text, json, _, reads, denotes⟩ := ConstantValue.exists_reads stored
  exact (reads.readsBack denotes).exists_text

/-- **The bound on the scale.**  Decimals that are made keep it, also on the operations that
are built from them.  Reading gives every decimal that storage holds, alone and as a
constant, and such a decimal is found on operations whatever its scale is. -/
theorem scale_law (d : Decimal) :
    (d.IsMade ↔ d.scale ≤ maxScale) ∧ (d.IsFoundFrom IsMade ↔ d.scale ≤ maxScale) ∧
      (∃ text, read? text = some d) ∧ (∃ text, ConstantValue.read? text = some (.decimal d)) ∧
      d.IsFoundFrom IsRead :=
  ⟨isMade_iff, isFoundFrom_iff.trans isMade_iff, d.exists_read, d.exists_read_constant,
    isFoundFrom_iff.2 (.inl d.exists_read)⟩

/-- One unit of the first place behind the bound. -/
def beyondBound : Decimal where
  mantissa := 1
  scale := 29
  mantissa_bounds := by decide
  scale_lt := by decide

theorem read_beyondBound :
    read? "\x7b\"mantissa\":1,\"scale\":29\x7d" = some beyondBound ∧
      ofParts? 1 29 = none ∧ ¬ beyondBound.scale ≤ maxScale := by
  have noSpace : ∀ c ∈ ([] : List Char), Json.isSpace c = true := List.forall_mem_nil _
  have readBack := (beyondBound.readsBack [] noSpace).1 [] noSpace
  have written : String.ofList ([] ++ beyondBound.json ++ []) =
      "\x7b\"mantissa\":1,\"scale\":29\x7d" := by decide
  rw [written] at readBack
  exact ⟨readBack, by decide, by decide⟩

end Decimal

end BoundTree
