import BoundTree.Floating.Scientific

/-!
# Shortest decimals

The shortest decimal of a positive value of a binary format is the one with the
fewest digits among the decimals that round to that value.  Of several such the
nearest one is taken, and of two equally near ones the larger.

**The search is over decimal grids.**  The numbers that round to
`significand * 2 ^ exponent` form an interval around it; its ends belong to it
exactly when the significand is even.  The multiples of `10 ^ p` that lie in the
interval are found beside the value itself, so each grid costs one division of
natural numbers.  Coarser grids come first, and the first grid with a hit wins.

## Main definitions

* `RoundingInterval` — the numbers that round to one value
* `RoundingInterval.onGrid?` — the nearest point of a decimal grid in the interval
* `RoundingInterval.shortest` — the shortest decimal
-/

namespace BoundTree

/-- The numbers that round to `significand * 2 ^ exponent`. -/
structure RoundingInterval where
  significand : Nat
  exponent : Int
  /-- Whether the gap below the value is half the gap above it. -/
  lowest : Bool
  deriving DecidableEq

namespace RoundingInterval

/-- Whether the ends of the interval round to its value: a tie goes to the even
significand. -/
def closed (i : RoundingInterval) : Bool :=
  i.significand % 2 == 0

/-- A number of quarter units of the value's last place, measured on the grid of
multiples of `10 ^ grid`: the numerator over `unit`. -/
def measure (i : RoundingInterval) (grid : Int) (quarters : Nat) : Nat :=
  quarters * twoTo (i.exponent - 2).toNat * tenTo (-grid).toNat

/-- The length of one step of the grid of multiples of `10 ^ grid`, in the same
measure. -/
def unit (i : RoundingInterval) (grid : Int) : Nat :=
  twoTo (2 - i.exponent).toNat * tenTo grid.toNat

/-- Whether the `k`-th point of a grid lies in the interval. -/
def contains (i : RoundingInterval) (grid : Int) (k : Nat) : Bool :=
  let point := k * i.unit grid
  let low := i.measure grid (4 * i.significand - if i.lowest then 1 else 2)
  let high := i.measure grid (4 * i.significand + 2)
  if i.closed then
    decide (low ≤ point) && decide (point ≤ high)
  else
    decide (low < point) && decide (point < high)

/-- The point of a grid that lies in the interval nearest to its value.  Only the
two neighbours of the value can, and a tie goes to the larger. -/
def onGrid? (i : RoundingInterval) (grid : Int) : Option Nat :=
  let unit := i.unit grid
  let value := i.measure grid (4 * i.significand)
  let below := value / unit
  match i.contains grid below, i.contains grid (below + 1) with
  | true, true => some (if 2 * (value % unit) < unit then below else below + 1)
  | true, false => some below
  | false, true => some (below + 1)
  | false, false => none

/-- The first hit on the grids from `grid` downwards, for a number of steps. -/
def search (i : RoundingInterval) : Nat → Int → Scientific
  | 0, grid => ⟨i.measure grid (4 * i.significand) / i.unit grid, grid⟩
  | steps + 1, grid =>
    match i.onGrid? grid with
    | some k => ⟨k, grid⟩
    | none => i.search steps (grid - 1)

/-- A grid whose step exceeds the value.  The decimal logarithm of two is just
below `30103 / 100000`. -/
def coarsest (i : RoundingInterval) : Int :=
  (Nat.log2 i.significand + 1 + i.exponent) * 30103 / 100000 + 2

/-- The shortest decimal that rounds to the interval's value.  A significand of
`b` bits needs fewer than `b / 3 + 2` digits, so the search ends on a hit. -/
def shortest (i : RoundingInterval) : Scientific :=
  i.search (Nat.log2 i.significand + 8) i.coarsest

end RoundingInterval

end BoundTree
