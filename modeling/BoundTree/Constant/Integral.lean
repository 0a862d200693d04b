import BoundTree.Numeral

/-!
# Integral constants

An integral constant is an integer together with the width and signedness in
which it was folded.  The same number in two widths makes two constants.

## Main definitions

* `IntegralKind` — the eight widths, with `IntegralKind.lower` and `IntegralKind.upper`
* `IntegralKind.Fits` — an integer lies in the range of a width
* `Integral` — an integer of a width
* `Integral.asInt64?` — the integer, if 64 signed bits can hold it

## Main statements

* `Integral.asInt64?_eq` — the conversions of all widths are one range test
-/

namespace BoundTree

/-- The width and signedness of an integral constant. -/
inductive IntegralKind where
  | sbyte
  | byte
  | int16
  | uint16
  | int32
  | uint32
  | int64
  | uint64
  deriving DecidableEq

namespace IntegralKind

/-- All widths, from narrow to wide. -/
def all : List IntegralKind :=
  [sbyte, byte, int16, uint16, int32, uint32, int64, uint64]

/-- The name under which a width is written in stored forms. -/
def name : IntegralKind → String
  | sbyte => "SByte"
  | byte => "Byte"
  | int16 => "Int16"
  | uint16 => "UInt16"
  | int32 => "Int32"
  | uint32 => "UInt32"
  | int64 => "Int64"
  | uint64 => "UInt64"

/-- The width with a given name. -/
def named? (name : String) : Option IntegralKind :=
  all.find? fun kind => kind.name == name

/-- The least integer of a width. -/
def lower : IntegralKind → Int
  | sbyte => -128
  | int16 => -32768
  | int32 => -2147483648
  | int64 => -9223372036854775808
  | byte | uint16 | uint32 | uint64 => 0

/-- The greatest integer of a width. -/
def upper : IntegralKind → Int
  | sbyte => 127
  | byte => 255
  | int16 => 32767
  | uint16 => 65535
  | int32 => 2147483647
  | uint32 => 4294967295
  | int64 => 9223372036854775807
  | uint64 => 18446744073709551615

/-- An integer lies in the range of a width. -/
def Fits (kind : IntegralKind) (value : Int) : Prop :=
  kind.lower ≤ value ∧ value ≤ kind.upper

instance (kind : IntegralKind) (value : Int) : Decidable (kind.Fits value) :=
  inferInstanceAs (Decidable (_ ∧ _))

/-- The range of every width is within 64 signed bits, but for the unsigned one of 64 bits. -/
theorem Fits.int64 {kind : IntegralKind} {value : Int} (fits : kind.Fits value)
    (notUnsigned : kind ≠ .uint64) : int64.Fits value := by
  obtain ⟨low, high⟩ := fits
  cases kind
  case uint64 => contradiction
  all_goals
    simp only [lower, upper] at low high
    exact ⟨by simp only [lower]; omega, by simp only [upper]; omega⟩

theorem named?_name (kind : IntegralKind) : named? kind.name = some kind := by
  cases kind <;> decide

end IntegralKind

/-- An integer of a given width. -/
@[ext]
structure Integral where
  kind : IntegralKind
  value : Int
  fits : kind.Fits value
  deriving DecidableEq

namespace Integral

/-- An integer in a given width, or nothing when it lies outside the range. -/
def ofInt? (kind : IntegralKind) (value : Int) : Option Integral :=
  if h : kind.Fits value then some ⟨kind, value, h⟩ else none

/-- A 64-bit signed integer. -/
def ofInt64 (value : Int64) : Integral :=
  ⟨.int64, value.toInt, Int64.le_toInt value, Int64.toInt_le value⟩

/-- A 32-bit signed integer. -/
def ofInt32 (value : Int32) : Integral :=
  ⟨.int32, value.toInt, Int32.le_toInt value, Int32.toInt_le value⟩

/-- The integer converted to 64 signed bits.  Every width converts as it is, except that
an unsigned integer of 64 bits is checked first. -/
def asInt64? (n : Integral) : Option Int :=
  match n.kind with
  | .sbyte => some n.value
  | .byte => some n.value
  | .int16 => some n.value
  | .uint16 => some n.value
  | .int32 => some n.value
  | .uint32 => some n.value
  | .int64 => some n.value
  | .uint64 => if IntegralKind.int64.Fits n.value then some n.value else none

/-- The written form of an integral constant: its plain numeral, whatever the width. -/
def chars (n : Integral) : List Char :=
  Numeral.ofInt n.value

/-- What is made in a width has that width and that value. -/
theorem ofInt?_eq_some_iff {kind : IntegralKind} {value : Int} {n : Integral} :
    ofInt? kind value = some n ↔ n.kind = kind ∧ n.value = value := by
  unfold ofInt?
  constructor
  · intro h
    split at h
    · injection h with h
      subst h
      exact ⟨rfl, rfl⟩
    · contradiction
  · rintro ⟨rfl, rfl⟩
    rw [dif_pos n.fits]

/-- **One range decides for all widths** whether an integer converts to 64 signed bits. -/
theorem asInt64?_eq (n : Integral) :
    n.asInt64? = if IntegralKind.int64.Fits n.value then some n.value else none := by
  obtain ⟨kind, value, fits⟩ := n
  cases kind
  case uint64 => rfl
  all_goals exact (if_pos (fits.int64 (by decide))).symm

end Integral

end BoundTree
