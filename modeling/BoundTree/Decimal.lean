import BoundTree.Numeral

/-!
# Scaled decimals

A decimal is an exact number `mantissa / 10 ^ scale`.  The scale is kept as
written, so `1.50` and `1.5` are two decimals with one numerical value.

**Two bounds on the scale.**  A decimal literal carries a scale of at most
`Decimal.maxScale`; `Decimal.ofParts?` checks that bound.  Storage holds any
scale below 256, and `Decimal.stored?` checks only that the parts can be held
at all.

## Main definitions

* `Decimal` — a 128-bit signed mantissa with an 8-bit scale
* `Decimal.stored?` — the decimal with given parts, if storage can hold them
* `Decimal.ofParts?` — the decimal literal with given parts, if it is allowed
* `Decimal.chars`, `Decimal.text` — the written form
-/

namespace BoundTree

/-- Two to the power 127, which bounds the mantissas that 128 signed bits hold. -/
def mantissaBound : Int := 170141183460469231731687303715884105728

/-- An exact number `mantissa / 10 ^ scale` that keeps its scale as written. -/
@[ext]
structure Decimal where
  /-- The digits of the number read without the point, as a signed integer. -/
  mantissa : Int
  /-- The number of digits after the point. -/
  scale : Nat
  mantissa_bounds : -mantissaBound ≤ mantissa ∧ mantissa < mantissaBound
  scale_lt : scale < 256
  deriving DecidableEq

namespace Decimal

/-- The largest scale that a decimal literal can carry. -/
def maxScale : Nat := 28

/-- The decimal with the given parts, or nothing when a part exceeds its storage. -/
def stored? (mantissa : Int) (scale : Nat) : Option Decimal :=
  if h : (-mantissaBound ≤ mantissa ∧ mantissa < mantissaBound) ∧ scale < 256 then
    some ⟨mantissa, scale, h.1, h.2⟩
  else
    none

/-- The decimal literal with the given parts, or nothing when its scale exceeds
`maxScale` or a part exceeds its storage. -/
def ofParts? (mantissa : Int) (scale : Nat) : Option Decimal :=
  if scale ≤ maxScale then stored? mantissa scale else none

/-! ### The written form -/

/-- A list of digits with a point before the last `scale` of them.  Zeros in
front make sure that at least one digit stands before the point. -/
def pointed (digits : List Char) (scale : Nat) : List Char :=
  if scale = 0 then
    digits
  else
    let padded := digits.leftpad (scale + 1) '0'
    let whole := padded.length - scale
    padded.take whole ++ '.' :: padded.drop whole

/-- The sign that is written in front of a number: a minus below zero, else nothing. -/
def signOf (n : Int) : List Char :=
  if n < 0 then ['-'] else []

/-- The written form of a decimal: its sign, then the digits of the mantissa
with the point placed by the scale. -/
def chars (d : Decimal) : List Char :=
  signOf d.mantissa ++ pointed (Numeral.ofNat d.mantissa.natAbs) d.scale

/-- The written form of a decimal as a string. -/
def text (d : Decimal) : String :=
  String.ofList d.chars

/-! ### Which parts make a decimal -/

/-- What is made of stored parts has these parts. -/
theorem stored?_eq_some_iff {mantissa : Int} {scale : Nat} {d : Decimal} :
    stored? mantissa scale = some d ↔ d.mantissa = mantissa ∧ d.scale = scale := by
  unfold stored?
  constructor
  · intro h
    split at h
    · injection h with h
      subst h
      exact ⟨rfl, rfl⟩
    · contradiction
  · rintro ⟨rfl, rfl⟩
    rw [dif_pos ⟨d.mantissa_bounds, d.scale_lt⟩]

/-- The checked constructor makes a decimal exactly if the scale is allowed. -/
theorem ofParts?_eq_some_iff {mantissa : Int} {scale : Nat} {d : Decimal} :
    ofParts? mantissa scale = some d ↔
      scale ≤ maxScale ∧ d.mantissa = mantissa ∧ d.scale = scale := by
  unfold ofParts?
  split
  case isTrue allowed => simp [stored?_eq_some_iff, allowed]
  case isFalse refused => simp [refused]

end Decimal

end BoundTree
