import BoundTree.Floating.Scientific

/-!
# Binary floating-point formats

A format gives the widths of the fraction and of the exponent field, and how many
digits of a decimal tell its values apart.  A bit
pattern consists of a sign bit, the exponent field and the fraction, from the
most significant end.

**Finite values are decoded exactly.**  A finite pattern denotes
`significand * 2 ^ exponent` with natural `significand`, so all later questions
about it are questions about natural numbers.

## Main definitions

* `FloatFormat` — a format; `FloatFormat.single` and `FloatFormat.double`
* `FloatValue` — what a bit pattern denotes
* `FloatFormat.decode` — the value of a bit pattern
-/

namespace BoundTree

/-- A binary floating-point format. -/
structure FloatFormat where
  /-- The width of the fraction field. -/
  fractionBits : Nat
  /-- The width of the exponent field. -/
  exponentBits : Nat
  /-- The number of leading digits of a decimal that are read one by one.  It is one more
  than the number of digits of any decimal halfway between two values. -/
  digitLimit : Nat
  deriving DecidableEq

/-- What a bit pattern of a binary floating-point format denotes. -/
inductive FloatValue where
  /-- No number. -/
  | nan
  | infinite (negative : Bool)
  /-- The number `significand * 2 ^ exponent` with a sign.  It is `lowest` in its
  binade when the next value below, if any, is only half as far away as the next
  value above. -/
  | finite (negative : Bool) (significand : Nat) (exponent : Int) (lowest : Bool)
  deriving DecidableEq

namespace FloatFormat

/-- The 32-bit format. -/
def single : FloatFormat := ⟨23, 8, 113⟩

/-- The 64-bit format. -/
def double : FloatFormat := ⟨52, 11, 768⟩

/-- The exponent of the last fraction bit of the smallest values. -/
def minExponent (format : FloatFormat) : Int :=
  2 - twoTo (format.exponentBits - 1) - format.fractionBits

/-- The bit pattern of positive infinity: the exponent field filled with ones. -/
def infinityBits (format : FloatFormat) : Nat :=
  (twoTo format.exponentBits - 1) * twoTo format.fractionBits

/-- The bit that holds the sign, as a number. -/
def signBit (format : FloatFormat) : Nat :=
  twoTo (format.fractionBits + format.exponentBits)

/-- The value of a bit pattern. -/
def decode (format : FloatFormat) (bits : Nat) : FloatValue :=
  let fraction := bits % twoTo format.fractionBits
  let field := bits / twoTo format.fractionBits % twoTo format.exponentBits
  let negative := bits / format.signBit % 2 == 1
  if field = twoTo format.exponentBits - 1 then
    if fraction = 0 then .infinite negative else .nan
  else if field = 0 then
    .finite negative fraction format.minExponent false
  else
    .finite negative (fraction + twoTo format.fractionBits)
      (format.minExponent + (field - 1 : Nat)) (fraction == 0 && decide (1 < field))

end FloatFormat

end BoundTree
