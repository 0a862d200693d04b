import BoundTree.Decimal
import Mathlib.Algebra.Field.Rat
import Mathlib.Data.Rat.Cast.Defs
import Mathlib.Tactic.FieldSimp
import Mathlib.Tactic.Ring

/-!
# The written form of decimals

A decimal is written with a minus below zero, with digits before a point and, unless its
scale is zero, with as many digits behind the point as the scale says.

**Zeros in front make room for the point.**  The digits of the mantissa are padded until
there is one more than the scale asks for, and then cut before the last `scale` of them.
So the cut never falls outside of the digits, and one digit at least stands before the
point; it is a zero only if no other digit stands there.

**Nothing is lost.**  A reader that knows nothing about the decimal takes the text apart
at the minus and at the point.  The digits of both parts give back the mantissa, and the
number of digits behind the point gives back the scale.

## Main definitions

* `Numeral.IsCanonical` — digits without a superfluous zero in front
* `PointedText` — the parts of a written number, with `PointedText.ofChars`, which finds them
* `PointedText.number` — the rational number that a text with a point denotes
* `Decimal.WrittenAs` — the parts of the written form of a decimal

## Main statements

* `Decimal.exists_writtenAs` — the written form has these parts
* `Decimal.chars_injective` — decimals with one written form are equal
* `Decimal.written_exactly` — the written form denotes the decimal and can be read back
-/

namespace BoundTree

namespace Numeral

/-! ### Digits without superfluous zeros -/

/-- A row of digits that is not empty and begins with a zero only if it is that zero alone. -/
structure IsCanonical (digits : List Char) : Prop where
  ne_nil : digits ≠ []
  isDigit : ∀ c ∈ digits, c.isDigit
  no_leading_zero : ∀ others, digits = '0' :: others → others = []

theorem isCanonical_ofNat (n : Nat) : IsCanonical (ofNat n) where
  ne_nil := ofNat_ne_nil n
  isDigit := fun _ mem => isDigit_of_mem_ofNat mem
  no_leading_zero := fun _ front => eq_nil_of_ofNat_eq_zero_cons front

theorem isCanonical_zero : IsCanonical ['0'] :=
  isCanonical_ofNat 0

/-- Digits may be cut off behind the first one. -/
theorem IsCanonical.take {digits : List Char} (canonical : IsCanonical digits) {count : Nat}
    (positive : 0 < count) : IsCanonical (digits.take count) := by
  refine ⟨?_, ?_, ?_⟩
  · intro empty
    rcases List.take_eq_nil_iff.1 empty with isZero | isNil
    · omega
    · exact canonical.ne_nil isNil
  · intro c mem
    exact canonical.isDigit c (List.mem_of_mem_take mem)
  · intro others front
    have whole : digits = '0' :: (others ++ digits.drop count) := by
      rw [← List.cons_append, ← front, List.take_append_drop]
    exact (List.append_eq_nil_iff.1 (canonical.no_leading_zero _ whole)).1

/-- The digits of two rows side by side: those of the first count as many places more as
the second is long. -/
theorem value_append (digits others : List Char) :
    value (digits ++ others) = value digits * 10 ^ others.length + value others := by
  rw [value, Nat.ofDigitChars_append, Nat.ofDigitChars_eq_ofDigitChars_zero, Nat.mul_comm]
  rfl

/-- Zeros in front do not count. -/
theorem value_leftpad (digits : List Char) (length : Nat) :
    value (digits.leftpad length '0') = value digits := by
  have zeros : value (List.replicate (length - digits.length) '0') = 0 := by
    rw [value, Nat.ofDigitChars_replicate_zero, Nat.mul_zero]
  rw [List.leftpad, value_append, zeros, Nat.zero_mul, Nat.zero_add]

end Numeral

/-! ### Reading a text with a point -/

/-- The parts of a written number. -/
structure PointedText where
  /-- Whether a minus stands in front. -/
  isNegative : Bool
  /-- The digits before the point. -/
  whole : List Char
  /-- The digits behind the point, none if there is no point. -/
  fraction : List Char

namespace PointedText

/-- A text taken apart at a minus in front and at its first point. -/
def ofChars (cs : List Char) : PointedText :=
  let isNegative := cs.head? == some '-'
  let unsigned := if isNegative then cs.tail else cs
  { isNegative
    whole := unsigned.takeWhile (· != '.')
    fraction := (unsigned.dropWhile (· != '.')).tail }

/-- The sign of a written number, as a factor. -/
def sign (written : PointedText) : Int :=
  if written.isNegative then -1 else 1

/-- The integer that is written if the point does not count. -/
def mantissa (written : PointedText) : Int :=
  written.sign * Numeral.value (written.whole ++ written.fraction)

/-- The number of places behind the point. -/
def scale (written : PointedText) : Nat :=
  written.fraction.length

/-- The number that is written: a digit behind the point counts a tenth of what it would
count one place before. -/
def number (written : PointedText) : ℚ :=
  written.sign *
    (Numeral.value written.whole +
      Numeral.value written.fraction / 10 ^ written.fraction.length)

/-- A written number is the integer without the point, as many places down. -/
theorem number_eq (written : PointedText) :
    written.number = (written.mantissa : ℚ) / 10 ^ written.scale := by
  have places : (10 : ℚ) ^ written.fraction.length ≠ 0 := pow_ne_zero _ (by norm_num)
  rw [number, mantissa, scale, Numeral.value_append]
  push_cast
  field_simp

/-- Digits of an absolute value, with the sign beside them, are those of the integer. -/
theorem mantissa_eq {n : Int} {whole fraction : List Char}
    (denotes : Numeral.value (whole ++ fraction) = n.natAbs) :
    (PointedText.mk (decide (n < 0)) whole fraction).mantissa = n := by
  rw [mantissa, sign, denotes]
  by_cases negative : n < 0
  · simp only [negative, decide_true, if_true]
    omega
  · simp only [negative, decide_false, Bool.false_eq_true, if_false]
    omega

/-- The point and the minus are found in digits that they stand between. -/
theorem ofChars_append (isNegative : Bool) {whole fraction : List Char}
    (someDigit : whole ≠ []) (areDigits : ∀ c ∈ whole, c.isDigit) {behind : List Char}
    (isBehind : behind = '.' :: fraction ∨ behind = [] ∧ fraction = []) :
    ofChars ((if isNegative then ['-'] else []) ++ whole ++ behind) =
      ⟨isNegative, whole, fraction⟩ := by
  have noPoint : ∀ c ∈ whole, (c != '.') = true := by
    intro c mem
    rw [bne_iff_ne]
    rintro rfl
    exact absurd (areDigits _ mem) (by decide)
  have cut : (whole ++ behind).takeWhile (· != '.') = whole ∧
      ((whole ++ behind).dropWhile (· != '.')).tail = fraction := by
    rw [List.takeWhile_append_of_pos noPoint, List.dropWhile_append_of_pos noPoint]
    rcases isBehind with rfl | ⟨rfl, rfl⟩ <;> simp
  obtain ⟨first, others, rfl⟩ := List.exists_cons_of_ne_nil someDigit
  have noMinus : first ≠ '-' := by
    rintro rfl
    exact absurd (areDigits _ List.mem_cons_self) (by decide)
  rw [List.cons_append] at cut
  cases isNegative with
  | true => simp [ofChars, cut.1, cut.2]
  | false => simp [ofChars, noMinus, cut.1, cut.2]

end PointedText

/-! ### The parts of the written form -/

/-- A row of characters cut before the last `count` of them, or nothing if it has fewer. -/
def cutBeforeLast? (count : Nat) (cs : List Char) : Option (List Char × List Char) :=
  if count ≤ cs.length then some (cs.splitAt (cs.length - count)) else none

namespace Decimal

/-- The digits of the mantissa, with zeros in front until there are more than the scale asks
for. -/
def paddedDigits (d : Decimal) : List Char :=
  (Numeral.ofNat d.mantissa.natAbs).leftpad (d.scale + 1) '0'

/-- The decimal is written with these digits before and behind the point. -/
structure WrittenAs (d : Decimal) (whole fraction : List Char) : Prop where
  chars_eq : d.chars =
    (if d.mantissa < 0 then ['-'] else []) ++ whole ++
      (if 0 < d.scale then '.' :: fraction else [])
  cut : cutBeforeLast? d.scale d.paddedDigits = some (whole, fraction)
  whole_isCanonical : Numeral.IsCanonical whole
  fraction_isDigit : ∀ c ∈ fraction, c.isDigit
  length_fraction : fraction.length = d.scale

/-- The digits are padded to one more than the scale, so that some stand before the point. -/
theorem length_paddedDigits (d : Decimal) :
    d.paddedDigits.length = max (d.scale + 1) (Numeral.ofNat d.mantissa.natAbs).length :=
  List.length_leftpad

theorem isDigit_of_mem_paddedDigits {d : Decimal} {c : Char} (mem : c ∈ d.paddedDigits) :
    c.isDigit := by
  rcases List.mem_append.1 mem with isZero | isDigit
  · rw [List.eq_of_mem_replicate isZero]
    decide
  · exact Numeral.isDigit_of_mem_ofNat isDigit

/-- **The digits before the point** are those of the mantissa but for the last ones, or a
zero alone. -/
theorem isCanonical_take_paddedDigits (d : Decimal) :
    Numeral.IsCanonical (d.paddedDigits.take (d.paddedDigits.length - d.scale)) := by
  rw [length_paddedDigits, paddedDigits]
  generalize shown : Numeral.ofNat d.mantissa.natAbs = digits
  have canonical : Numeral.IsCanonical digits := shown ▸ Numeral.isCanonical_ofNat _
  by_cases short : digits.length ≤ d.scale
  · -- all digits stand behind the point, and one padding zero before it
    have padding : List.replicate (d.scale + 1 - digits.length) '0' =
        '0' :: List.replicate (d.scale - digits.length) '0' := by
      rw [show d.scale + 1 - digits.length = d.scale - digits.length + 1 by omega]
      exact List.replicate_succ
    have one : max (d.scale + 1) digits.length - d.scale = 1 := by omega
    rw [List.leftpad, padding, one, List.cons_append, List.take_succ_cons, List.take_zero]
    exact Numeral.isCanonical_zero
  · have noPadding : d.scale + 1 - digits.length = 0 := by omega
    rw [List.leftpad, noPadding, List.replicate_zero, List.nil_append]
    exact canonical.take (by omega)

/-- The padded digits and the point make up the text behind the sign. -/
theorem pointed_eq (d : Decimal) :
    pointed (Numeral.ofNat d.mantissa.natAbs) d.scale =
      d.paddedDigits.take (d.paddedDigits.length - d.scale) ++
        (if 0 < d.scale then
          '.' :: d.paddedDigits.drop (d.paddedDigits.length - d.scale)
        else []) := by
  unfold pointed
  by_cases isWhole : d.scale = 0
  · have someDigit := List.length_pos_iff.2 (Numeral.ofNat_ne_nil d.mantissa.natAbs)
    have noPadding : 0 + 1 - (Numeral.ofNat d.mantissa.natAbs).length = 0 := by omega
    rw [if_pos isWhole, if_neg (by omega), isWhole, Nat.sub_zero, List.take_length,
      List.append_nil, paddedDigits, isWhole, List.leftpad, noPadding]
    rfl
  · rw [if_neg isWhole, if_pos (Nat.pos_of_ne_zero isWhole)]
    rfl

/-- **The written form has its parts**: the cut falls inside of the padded digits. -/
theorem exists_writtenAs (d : Decimal) : ∃ whole fraction, d.WrittenAs whole fraction := by
  have inside : d.scale ≤ d.paddedDigits.length := by
    rw [length_paddedDigits]
    omega
  refine ⟨d.paddedDigits.take (d.paddedDigits.length - d.scale),
    d.paddedDigits.drop (d.paddedDigits.length - d.scale), ?_⟩
  constructor
  case chars_eq => rw [chars, pointed_eq, signOf, List.append_assoc]
  case cut => rw [cutBeforeLast?, if_pos inside, List.splitAt_eq]
  case whole_isCanonical => exact d.isCanonical_take_paddedDigits
  case fraction_isDigit =>
    intro c mem
    exact isDigit_of_mem_paddedDigits (List.mem_of_mem_drop mem)
  case length_fraction =>
    rw [List.length_drop]
    omega

example : (ofParts? (-5) 3).map chars = some ['-', '0', '.', '0', '0', '5'] := by decide

example : (ofParts? 150 2).map chars = some ['1', '.', '5', '0'] := by decide

namespace WrittenAs

variable {d : Decimal} {whole fraction : List Char}

/-- Both parts side by side are the padded digits. -/
theorem append_eq (written : d.WrittenAs whole fraction) :
    whole ++ fraction = d.paddedDigits := by
  have cut := written.cut
  unfold cutBeforeLast? at cut
  split at cut
  · rw [List.splitAt_eq, Option.some.injEq, Prod.mk.injEq] at cut
    obtain ⟨rfl, rfl⟩ := cut
    exact List.take_append_drop _ _
  · contradiction

theorem value_append (written : d.WrittenAs whole fraction) :
    Numeral.value (whole ++ fraction) = d.mantissa.natAbs := by
  rw [written.append_eq, paddedDigits, Numeral.value_leftpad, Numeral.value_ofNat]

/-- Its parts are found in the written form. -/
theorem ofChars_chars (written : d.WrittenAs whole fraction) :
    PointedText.ofChars d.chars = ⟨decide (d.mantissa < 0), whole, fraction⟩ := by
  have behind : (if 0 < d.scale then '.' :: fraction else []) = '.' :: fraction ∨
      (if 0 < d.scale then '.' :: fraction else []) = [] ∧ fraction = [] := by
    by_cases positive : 0 < d.scale
    · exact .inl (if_pos positive)
    · have none : fraction.length = 0 := by
        rw [written.length_fraction]
        omega
      exact .inr ⟨if_neg positive, List.length_eq_zero_iff.1 none⟩
  have found := PointedText.ofChars_append (decide (d.mantissa < 0))
    written.whole_isCanonical.ne_nil written.whole_isCanonical.isDigit behind
  rw [← found, written.chars_eq]
  simp only [decide_eq_true_eq]

end WrittenAs

/-! ### Reading the written form back -/

/-- The mantissa and the scale of a decimal are read off its written form. -/
theorem ofChars_chars (d : Decimal) :
    (PointedText.ofChars d.chars).mantissa = d.mantissa ∧
      (PointedText.ofChars d.chars).scale = d.scale := by
  obtain ⟨whole, fraction, written⟩ := d.exists_writtenAs
  rw [written.ofChars_chars]
  exact ⟨PointedText.mantissa_eq written.value_append, written.length_fraction⟩

/-- **The written form determines the decimal**: the scale is the number of digits behind the
point, and the mantissa is read off all digits. -/
theorem chars_injective {d e : Decimal} (same : d.chars = e.chars) : d = e := by
  obtain ⟨mantissa, scale⟩ := d.ofChars_chars
  obtain ⟨mantissa', scale'⟩ := e.ofChars_chars
  rw [same, mantissa'] at mantissa
  rw [same, scale'] at scale
  cases d
  cases e
  subst mantissa
  subst scale
  rfl

theorem toList_text (d : Decimal) : d.text.toList = d.chars :=
  String.toList_ofList

/-- **A decimal is written exactly.**  Its written form has a sign, digits before the point
and as many digits behind it as the scale says; it denotes the decimal as a rational number,
and mantissa and scale are read off it.  So decimals with one written form have both in
common, also where they are numerically equal. -/
theorem written_exactly (d : Decimal) :
    (∃ whole fraction, d.WrittenAs whole fraction) ∧
      (PointedText.ofChars d.text.toList).number = (d.mantissa : ℚ) / 10 ^ d.scale ∧
      (PointedText.ofChars d.text.toList).mantissa = d.mantissa ∧
      (PointedText.ofChars d.text.toList).scale = d.scale ∧
      ∀ e : Decimal, d.text = e.text ↔ d.mantissa = e.mantissa ∧ d.scale = e.scale := by
  obtain ⟨mantissa, scale⟩ := d.ofChars_chars
  have number : (PointedText.ofChars d.chars).number = (d.mantissa : ℚ) / 10 ^ d.scale := by
    rw [PointedText.number_eq, mantissa, scale]
  rw [toList_text]
  refine ⟨d.exists_writtenAs, number, mantissa, scale, ?_⟩
  intro e
  constructor
  · intro same
    rw [chars_injective (String.ofList_injective same)]
    exact ⟨rfl, rfl⟩
  · rintro ⟨sameMantissa, sameScale⟩
    rw [text, text, chars, chars, sameMantissa, sameScale]

end Decimal

end BoundTree
