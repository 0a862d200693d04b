import BoundTree.Floating.Format
import BoundTree.Floating.Scientific

/-!
# Nearest floating-point values

The value of a binary format nearest to a given decimal.  A tie goes to the
value with an even significand.  A decimal that rounds past the largest finite
value has no nearest one.

**Far exponents are settled without arithmetic.**  A decimal far above or below
the format's reach overflows or becomes zero, and its power of ten is never
computed.

## Main definitions

* `FloatFormat.nearestQuotient?` — the nearest value to a quotient
* `FloatFormat.nearest?` — the nearest value to a decimal
-/

namespace BoundTree

/-- A quotient rounded to a natural number, a half going to the even neighbour. -/
def roundHalfEven (num den : Nat) : Nat :=
  let below := num / den
  let rest := num % den
  if 2 * rest < den ∨ (2 * rest = den ∧ below % 2 = 0) then below else below + 1

/-- The exponent of the largest power of two that does not exceed a quotient. -/
def quotientLog2 (num den : Nat) : Int :=
  let guess : Int := (Nat.log2 num : Int) - Nat.log2 den
  if den * twoTo guess.toNat ≤ num * twoTo (-guess).toNat then guess else guess - 1

namespace FloatFormat

/-- The bit pattern of the value nearest to a quotient, or nothing when the
quotient rounds past the largest finite value.  The significand that rounds up to
the next power of two carries into the exponent field by itself. -/
def nearestQuotient? (format : FloatFormat) (num den : Nat) : Option Nat :=
  if num = 0 then
    some 0
  else
    let exponent := max (quotientLog2 num den - format.fractionBits) format.minExponent
    let significand :=
      roundHalfEven (num * twoTo (-exponent).toNat) (den * twoTo exponent.toNat)
    let bits := (exponent - format.minExponent).toNat * twoTo format.fractionBits + significand
    if bits < format.infinityBits then some bits else none

/-- A power of ten beyond which every positive decimal overflows, and below whose
inverse every decimal rounds to zero. -/
def reach (format : FloatFormat) : Int :=
  twoTo format.exponentBits

/-- The bit pattern of the value nearest to a decimal, or nothing when the decimal
rounds past the largest finite value. -/
def nearest? (format : FloatFormat) (x : Scientific) : Option Nat :=
  if x.digits = 0 then
    some 0
  else
    let leading : Int := x.exponent + x.digitCount
    if format.reach < leading then none
    else if leading < -format.reach then some 0
    else
      format.nearestQuotient? (x.digits * tenTo x.exponent.toNat) (tenTo (-x.exponent).toNat)

/-- The bit pattern with a sign. -/
def signed (format : FloatFormat) (negative : Bool) (bits : Nat) : Nat :=
  if negative then format.signBit + bits else bits

end FloatFormat

end BoundTree
