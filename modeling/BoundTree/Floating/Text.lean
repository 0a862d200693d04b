import BoundTree.Floating.Format
import BoundTree.Floating.Shortest
import BoundTree.Numeral

/-!
# The written form of floating-point values

A finite value is written with its shortest digits.  It is written positionally,
always with a digit after the point, when its leading digit stands between the
fourth place after the point and the sixteenth before it, and with an exponent
otherwise.  A written exponent has no plus sign and no padding, and a single digit
before it has no point.

## Main definitions

* `FloatText.positional`, `FloatText.exponential` — the two layouts of digits
* `FloatFormat.chars` — the written form of a bit pattern
-/

namespace BoundTree

namespace FloatText

/-- The least exponent of a leading digit that is written positionally. -/
def leastPositional : Int := -4

/-- The greatest exponent of a leading digit that is written positionally. -/
def greatestPositional : Int := 15

/-- Digits written around a point, the leading one in the place of `10 ^ leading`. -/
def positional (digits : List Char) (leading : Int) : List Char :=
  if leading < 0 then
    '0' :: '.' :: (List.replicate (-leading - 1).toNat '0' ++ digits)
  else
    let whole := leading.toNat + 1
    if digits.length ≤ whole then
      digits ++ List.replicate (whole - digits.length) '0' ++ ['.', '0']
    else
      digits.take whole ++ '.' :: digits.drop whole

/-- Digits written with an exponent, the leading one in the place of `10 ^ leading`. -/
def exponential (digits : List Char) (leading : Int) : List Char :=
  digits.take 1 ++ (if digits.length ≤ 1 then [] else '.' :: digits.drop 1) ++
    'e' :: Numeral.ofInt leading

/-- The written form of a positive number in scientific form. -/
def ofScientific (x : Scientific) : List Char :=
  let digits := Numeral.ofNat x.digits
  let leading := x.exponent + digits.length - 1
  if leastPositional ≤ leading ∧ leading ≤ greatestPositional then
    positional digits leading
  else
    exponential digits leading

/-- The sign that is written in front of a value: a minus, or nothing. -/
def sign (negative : Bool) : List Char :=
  if negative then ['-'] else []

end FloatText

namespace FloatFormat

/-- The written form of a bit pattern.  A value that is no number has no sign, and
zero keeps its own. -/
def chars (format : FloatFormat) (bits : Nat) : List Char :=
  match format.decode bits with
  | .nan => ['N', 'a', 'N']
  | .infinite negative => FloatText.sign negative ++ ['i', 'n', 'f']
  | .finite negative significand exponent lowest =>
    FloatText.sign negative ++
      if significand = 0 then
        ['0', '.', '0']
      else
        FloatText.ofScientific (RoundingInterval.shortest ⟨significand, exponent, lowest⟩)

end FloatFormat

end BoundTree
