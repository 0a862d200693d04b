/-!
# Numbers in scientific form

A non-negative number given by its decimal digits and a power of ten.  Nothing
normalises the digits, so one number has many such forms.

## Main definitions

* `Scientific` — the number `digits * 10 ^ exponent`
* `twoTo`, `tenTo` — powers of the two bases
* `Scientific.abbreviated` — a number cut to its leading digits
-/

namespace BoundTree

/-- The non-negative number `digits * 10 ^ exponent`. -/
structure Scientific where
  /-- The digits read as a natural number. -/
  digits : Nat
  /-- The power of ten that scales the digits. -/
  exponent : Int
  deriving DecidableEq

/-- A power of two. -/
def twoTo (exponent : Nat) : Nat :=
  Nat.pow 2 exponent

/-- A power of ten. -/
def tenTo (exponent : Nat) : Nat :=
  Nat.pow 10 exponent

/-- The number of digits of a number, leading zeros not counted. -/
def Scientific.digitCount (x : Scientific) : Nat :=
  (Nat.toDigits 10 x.digits).length

/-- The number with at most `limit` leading digits.  When there are more, a single one
after the leading digits stands for all of them, whichever they are. -/
def Scientific.abbreviated (limit : Nat) (x : Scientific) : Scientific :=
  if x.digitCount ≤ limit then
    x
  else
    let dropped := x.digitCount - limit
    ⟨x.digits / tenTo dropped * 10 + 1, x.exponent + dropped - 1⟩

end BoundTree
