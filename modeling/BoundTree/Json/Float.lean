import BoundTree.Floating.Nearest
import BoundTree.Json.Basic

/-!
# Floating-point values from JSON numbers

A JSON number is read as the nearest value of the format.  A minus before zero
gives negative zero, and a number that rounds past the largest finite value is
refused.

**Long digits.**  Digits past the limit of the format are not read one by one: that
there are any counts as a small excess.  Every number halfway between two values
ends within the limit, so the excess decides only such a number that goes on with
zeros, and rounds it up.  The zeros that end a fraction are no digits of a number.

**Long negative integers.**  A negative integer whose magnitude needs all 64 bits
is held in the 64-bit format before it is brought into its own, so in the 32-bit
format it is rounded twice.

## Main definitions

* `FloatFormat.ofToken?` — the bit pattern that a number as written denotes
-/

namespace BoundTree

namespace FloatFormat

/-- An integer magnitude that needs all of 64 bits, rounded to the 53 significant bits
of the 64-bit format: to a multiple of `2 ^ 11`. -/
def heldInDouble (magnitude : Nat) : Nat :=
  roundHalfEven magnitude 2048 * 2048

/-- The magnitude that stands for a written integer when it is rounded.  The negative
integers that are held first are those between `-2 ^ 64` and `-2 ^ 63`. -/
def integerMagnitude (negative : Bool) (magnitude : Nat) : Nat :=
  if negative ∧ 9223372036854775808 < magnitude ∧ magnitude < 18446744073709551616 then
    heldInDouble magnitude
  else
    magnitude

/-- The bit pattern that a magnitude denotes, read up to the limit of the format. -/
def ofDigits? (format : FloatFormat) (x : Scientific) : Option Nat :=
  format.nearest? (x.abbreviated format.digitLimit)

/-- The bit pattern that a number as written denotes. -/
def ofToken? (format : FloatFormat) : NumberToken → Option Nat
  | .integer negative magnitude =>
    (format.ofDigits? ⟨integerMagnitude negative magnitude, 0⟩).map (format.signed negative)
  | .decimal negative magnitude =>
    (format.ofDigits? magnitude).map (format.signed negative)

end FloatFormat

end BoundTree
