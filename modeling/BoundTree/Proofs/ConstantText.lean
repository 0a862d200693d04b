import BoundTree.Proofs.DecimalText
import BoundTree.Proofs.Json.RoundTrip
import BoundTree.Proofs.Quoted

/-!
# What the text of a constant tells

A constant that is not floating-point is shown as a word, as quoted text, or as a number.

**The first character tells the kind.**  The words for null and for the two truth values
begin with letters of their own, texts and characters with their quotes, and a number with
a minus or a digit.  Inside of a kind the text tells the constant, with one exception: an
integer is shown without its width, so all constants that denote one integer are shown
alike, a decimal without places behind the point among them.

**The width does not show, the integer does.**  An integral constant is shown as the
decimal of scale zero with its value.  What holds of the written form of decimals therefore
holds of both sorts of numbers.

## Main definitions

* `Numeral.IsNumeralOf` — a text is the plain decimal numeral of an integer
* `ConstantValue.wholeNumber?` — the integer that a number without a fraction part denotes
* `TextKind` — what the first character of a text announces

## Main statements

* `ConstantValue.exists_first` — the first character tells the kind
* `ConstantValue.chars_eq_iff` — which constants are shown alike
* `ConstantValue.texts_tell_apart` — the same of texts, and which integers are read as such
-/

namespace BoundTree

/-! ### Plain numerals -/

namespace Numeral

/-- The text is the plain decimal numeral of an integer: canonical digits that denote its
absolute value, behind a minus if it is negative. -/
def IsNumeralOf (cs : List Char) (n : Int) : Prop :=
  ∃ digits, IsCanonical digits ∧ value digits = n.natAbs ∧
    cs = (if n < 0 then ['-'] else []) ++ digits

/-- A numeral is a sign and the digits of the absolute value. -/
theorem ofInt_eq (n : Int) : ofInt n = (if n < 0 then ['-'] else []) ++ ofNat n.natAbs := by
  cases n with
  | ofNat n =>
    have notNegative : ¬ Int.ofNat n < 0 := Int.not_lt.2 (Int.natCast_nonneg n)
    rw [if_neg notNegative]
    rfl
  | negSucc n =>
    rw [if_pos (Int.negSucc_lt_zero n)]
    rfl

theorem isNumeralOf_ofInt (n : Int) : IsNumeralOf (ofInt n) n :=
  ⟨ofNat n.natAbs, isCanonical_ofNat _, value_ofNat _, ofInt_eq n⟩

/-- A numeral denotes one integer: what is read if no point is found. -/
theorem IsNumeralOf.mantissa_eq {cs : List Char} {n : Int} (numeral : IsNumeralOf cs n) :
    (PointedText.ofChars cs).mantissa = n := by
  obtain ⟨digits, canonical, denotes, rfl⟩ := numeral
  have found := PointedText.ofChars_append (decide (n < 0)) canonical.ne_nil canonical.isDigit
    (.inr ⟨rfl, rfl⟩)
  simp only [decide_eq_true_eq, List.append_nil] at found
  rw [found]
  exact PointedText.mantissa_eq (by rw [List.append_nil, denotes])

end Numeral

/-! ### Numbers as decimals -/

namespace Integral

/-- Integers of all widths are within the range of mantissas, so each is a decimal without places.
-/
theorem bounds (n : Integral) : -mantissaBound ≤ n.value ∧ n.value < mantissaBound := by
  obtain ⟨atLeast, atMost⟩ := n.fits
  generalize n.kind = kind at atLeast atMost
  cases kind <;> simp only [IntegralKind.lower, IntegralKind.upper] at atLeast atMost <;>
    simp only [mantissaBound] <;> omega

/-- The decimal of scale zero that denotes the same integer. -/
def toDecimal (n : Integral) : Decimal where
  mantissa := n.value
  scale := 0
  mantissa_bounds := n.bounds
  scale_lt := by decide

/-- An integral constant is shown like the decimal of scale zero. -/
theorem chars_toDecimal (n : Integral) : n.toDecimal.chars = n.chars :=
  (Numeral.ofInt_eq n.value).symm

end Integral

/-- The text of a decimal begins with a sign or with a digit. -/
theorem Decimal.exists_first (d : Decimal) :
    ∃ c cs, d.chars = c :: cs ∧ (c = '-' ∨ c.isDigit) := by
  obtain ⟨whole, fraction, written⟩ := d.exists_writtenAs
  obtain ⟨first, others, rfl⟩ := List.exists_cons_of_ne_nil written.whole_isCanonical.ne_nil
  have isDigit := written.whole_isCanonical.isDigit first List.mem_cons_self
  rw [written.chars_eq]
  by_cases negative : d.mantissa < 0
  · rw [if_pos negative]
    exact ⟨_, _, rfl, .inl rfl⟩
  · rw [if_neg negative]
    exact ⟨_, _, rfl, .inr isDigit⟩

/-! ### What the first character announces -/

/-- The kinds of texts that a constant is shown as. -/
inductive TextKind where
  | null
  | boolean
  | char
  | string
  | number
  deriving DecidableEq

/-- The kind of text that begins with a character. -/
def TextKind.announcedBy (c : Char) : TextKind :=
  if c = 'n' then null
  else if c = 't' ∨ c = 'f' then boolean
  else if c = '\x27' then char
  else if c = '"' then string
  else number

theorem TextKind.announcedBy_of_number {c : Char} (begins : c = '-' ∨ c.isDigit) :
    announcedBy c = number := by
  have other : ∀ letter : Char, letter ≠ '-' → letter.isDigit = false → c ≠ letter := by
    rintro letter noMinus noDigit rfl
    rcases begins with isMinus | isDigit
    · exact noMinus isMinus
    · exact absurd isDigit (by simp [noDigit])
  have noTruth : ¬ (c = 't' ∨ c = 'f') :=
    not_or.2 ⟨other 't' (by decide) rfl, other 'f' (by decide) rfl⟩
  rw [announcedBy, if_neg (other 'n' (by decide) rfl), if_neg noTruth,
    if_neg (other '\x27' (by decide) rfl), if_neg (other '"' (by decide) rfl)]

namespace ConstantValue

/-- The kind of text that a constant is shown as. -/
def textKind : ConstantValue → TextKind
  | null => .null
  | boolean _ => .boolean
  | char _ => .char
  | string _ => .string
  | integral _ | single _ | double _ | decimal _ => .number

/-- The number that a constant is shown as, if it is an integer or a decimal. -/
def number? : ConstantValue → Option Decimal
  | integral value => some value.toDecimal
  | decimal value => some value
  | _ => none

/-- The integer that a constant denotes, if it is a number without a fraction part. -/
def wholeNumber? : ConstantValue → Option Int
  | integral value => some value.value
  | decimal value => if value.scale = 0 then some value.mantissa else none
  | _ => none

variable {a b : ConstantValue}

theorem chars_of_number? {d : Decimal} (isNumber : a.number? = some d) : a.chars = d.chars := by
  cases a with
  | integral value =>
    cases isNumber
    exact value.chars_toDecimal.symm
  | decimal value =>
    cases isNumber
    rfl
  | _ => contradiction

theorem wholeNumber?_eq_some_iff {n : Int} :
    a.wholeNumber? = some n ↔ ∃ d, a.number? = some d ∧ d.scale = 0 ∧ d.mantissa = n := by
  cases a <;> simp [wholeNumber?, number?, Integral.toDecimal]

/-- The first character of the text of a constant tells its kind. -/
theorem exists_first (stored : ¬ a.IsFloating) :
    ∃ c cs, a.chars = c :: cs ∧ TextKind.announcedBy c = a.textKind := by
  have ofNumber : ∀ {d : Decimal}, a.number? = some d → a.textKind = .number →
      ∃ c cs, a.chars = c :: cs ∧ TextKind.announcedBy c = a.textKind := by
    intro d isNumber isKind
    obtain ⟨c, cs, shown, begins⟩ := d.exists_first
    exact ⟨c, cs, by rw [chars_of_number? isNumber, shown],
      by rw [TextKind.announcedBy_of_number begins, isKind]⟩
  cases a with
  | null => exact ⟨_, _, rfl, rfl⟩
  | boolean value => cases value <;> exact ⟨_, _, rfl, rfl⟩
  | char value => exact ⟨_, _, rfl, rfl⟩
  | string value => exact ⟨_, _, rfl, rfl⟩
  | integral value => exact ofNumber rfl rfl
  | decimal value => exact ofNumber rfl rfl
  | single bits => exact absurd trivial stored
  | double bits => exact absurd trivial stored

/-- Constants that are shown alike are of one kind: the first character announces it. -/
theorem textKind_eq (stored : ¬ a.IsFloating) (stored' : ¬ b.IsFloating)
    (same : a.chars = b.chars) : a.textKind = b.textKind := by
  obtain ⟨c, cs, shown, announced⟩ := exists_first stored
  obtain ⟨c', cs', shown', announced'⟩ := exists_first stored'
  rw [shown, shown'] at same
  rw [← announced, ← announced', (List.cons.inj same).1]

/-! ### Which constants are shown alike -/

/-- Constants that are shown as one number are equal, or both denote one integer. -/
theorem eq_or_whole_of_number? {d : Decimal} (isNumber : a.number? = some d)
    (isNumber' : b.number? = some d) :
    a = b ∨ ∃ n, a.wholeNumber? = some n ∧ b.wholeNumber? = some n := by
  by_cases isWhole : d.scale = 0
  · exact .inr ⟨d.mantissa, wholeNumber?_eq_some_iff.2 ⟨d, isNumber, isWhole, rfl⟩,
      wholeNumber?_eq_some_iff.2 ⟨d, isNumber', isWhole, rfl⟩⟩
  · -- places behind the point show that both constants are decimals
    have isDecimal : ∀ {c : ConstantValue}, c.number? = some d → c = decimal d := by
      intro c isNumber
      cases c with
      | integral value =>
        cases isNumber
        exact absurd rfl isWhole
      | decimal value =>
        cases isNumber
        rfl
      | _ => contradiction
    exact .inl ((isDecimal isNumber).trans (isDecimal isNumber').symm)

/-- **Constants that are shown alike** are equal or denote one integer. -/
theorem eq_or_whole_of_chars_eq (stored : ¬ a.IsFloating) (stored' : ¬ b.IsFloating)
    (same : a.chars = b.chars) :
    a = b ∨ ∃ n, a.wholeNumber? = some n ∧ b.wholeNumber? = some n := by
  have ofNumbers : ∀ {d e : Decimal}, a.number? = some d → b.number? = some e →
      a = b ∨ ∃ n, a.wholeNumber? = some n ∧ b.wholeNumber? = some n := by
    intro d e isNumber isNumber'
    rw [chars_of_number? isNumber, chars_of_number? isNumber'] at same
    rw [← Decimal.chars_injective same] at isNumber'
    exact eq_or_whole_of_number? isNumber isNumber'
  have ofQuotes : ∀ {quote : Char} {text text' : List Char}, Quoted.IsQuote quote →
      Quoted.enclose Quoted.isHidden quote text = Quoted.enclose Quoted.isHidden quote text' →
      text = text' := by
    intro quote text text' isQuote shown
    exact (Quoted.enclose_append_inj isQuote (congrArg (· ++ []) shown)).2.1
  have kinds := textKind_eq stored stored' same
  cases a <;> cases b <;> try contradiction
  case null.null => exact .inl rfl
  case boolean.boolean value value' =>
    cases value <;> cases value' <;> first | exact .inl rfl | exact absurd same (by decide)
  case char.char value value' =>
    exact .inl (congrArg char (List.cons.inj (ofQuotes (.inr rfl) same)).1)
  case string.string value value' =>
    exact .inl (congrArg string (String.toList_inj.1 (ofQuotes (.inl rfl) same)))
  case integral.integral | integral.decimal | decimal.integral | decimal.decimal =>
    exact ofNumbers rfl rfl
  case integral.single | integral.double | decimal.single | decimal.double =>
    exact absurd trivial stored'
  all_goals exact absurd trivial stored

/-- Whole numbers that denote one integer are shown alike, whatever their widths. -/
theorem chars_eq_of_wholeNumber? {n : Int} (isWhole : a.wholeNumber? = some n)
    (isWhole' : b.wholeNumber? = some n) : a.chars = b.chars := by
  obtain ⟨d, isNumber, noPlaces, mantissa⟩ := wholeNumber?_eq_some_iff.1 isWhole
  obtain ⟨e, isNumber', noPlaces', mantissa'⟩ := wholeNumber?_eq_some_iff.1 isWhole'
  rw [chars_of_number? isNumber, chars_of_number? isNumber', Decimal.chars, Decimal.chars,
    mantissa, mantissa', noPlaces, noPlaces']

/-- **Constants are shown alike exactly if they are equal or denote one integer.** -/
theorem chars_eq_iff (stored : ¬ a.IsFloating) (stored' : ¬ b.IsFloating) :
    a.chars = b.chars ↔
      a = b ∨ ∃ n, a.wholeNumber? = some n ∧ b.wholeNumber? = some n := by
  constructor
  · exact eq_or_whole_of_chars_eq stored stored'
  · rintro (rfl | ⟨n, isWhole, isWhole'⟩)
    · rfl
    · exact chars_eq_of_wholeNumber? isWhole isWhole'

theorem text_eq_iff_chars_eq : a.text = b.text ↔ a.chars = b.chars :=
  String.ofList_inj

/-- An integral constant is read as a 64-bit integer exactly if that is what its text says. -/
theorem asInt64?_eq_some_iff {n : Int} :
    a.asInt64? = some n ↔
      (∃ value, a = integral value) ∧ Numeral.IsNumeralOf a.chars n ∧
        -9223372036854775808 ≤ n ∧ n ≤ 9223372036854775807 := by
  constructor
  · intro reads
    cases a with
    | integral value =>
      rw [asInt64?, Integral.asInt64?_eq] at reads
      split at reads
      case isTrue fits =>
        obtain rfl := Option.some.inj reads
        exact ⟨⟨value, rfl⟩, Numeral.isNumeralOf_ofInt _, fits⟩
      case isFalse => contradiction
    | _ => contradiction
  · rintro ⟨⟨value, rfl⟩, numeral, fits⟩
    have same : value.value = n := by
      rw [← (Numeral.isNumeralOf_ofInt value.value).mantissa_eq, ← numeral.mantissa_eq]
      rfl
    subst same
    rw [asInt64?, Integral.asInt64?_eq]
    exact if_pos fits

/-- **The text of a constant tells it apart from all others**, but for the width of an integer:
two constants are shown alike exactly if they are equal or are numbers without a fraction
part that denote one integer.  A constant of any other kind is never shown like another one, and
no text of one character like that character.  A constant is read as a 64-bit integer exactly if it
is integral and its text is the numeral of an integer in that range. -/
theorem texts_tell_apart (stored : ¬ a.IsFloating) (stored' : ¬ b.IsFloating) :
    (a.text = b.text ↔
      a = b ∨ ∃ n, a.wholeNumber? = some n ∧ b.wholeNumber? = some n) ∧
    (a.wholeNumber? = none → (a.text = b.text ↔ a = b)) ∧
    (∀ c, (string (String.singleton c)).text ≠ (char c).text) ∧
    ∀ n, a.asInt64? = some n ↔
      (∃ value, a = integral value) ∧ Numeral.IsNumeralOf a.text.toList n ∧
        -9223372036854775808 ≤ n ∧ n ≤ 9223372036854775807 := by
  have alike := text_eq_iff_chars_eq.trans (chars_eq_iff stored stored')
  refine ⟨alike, ?_, ?_, ?_⟩
  · intro noWhole
    rw [alike, noWhole]
    simp
  · intro c same
    have kinds := textKind_eq id id (text_eq_iff_chars_eq.1 same)
    contradiction
  · intro n
    rw [text, String.toList_ofList]
    exact asInt64?_eq_some_iff

/-- The least integer that 64 signed bits cannot hold. -/
def beyondInt64 : ConstantValue :=
  integral ⟨.uint64, 9223372036854775808, by decide⟩

/-- The same integer as a decimal. -/
def beyondInt64AsDecimal : ConstantValue :=
  decimal ⟨9223372036854775808, 0, by decide, by decide⟩

/-- The integer and the decimal are shown alike although they differ, and the integer does not
convert to 64 signed bits. -/
theorem texts_tell_apart_beyondInt64 :
    ¬ beyondInt64.IsFloating ∧ ¬ beyondInt64AsDecimal.IsFloating ∧
      beyondInt64 ≠ beyondInt64AsDecimal ∧ beyondInt64.text = beyondInt64AsDecimal.text ∧
      beyondInt64.asInt64? = none :=
  ⟨id, id, by decide, (texts_tell_apart id id).1.2 (.inr ⟨9223372036854775808, rfl, rfl⟩), rfl⟩

end ConstantValue

end BoundTree
