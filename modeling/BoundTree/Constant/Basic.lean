import BoundTree.Constant.Integral
import BoundTree.Decimal
import BoundTree.Floating.Text
import BoundTree.Text.Quoted

/-!
# Constants

A compile-time constant keeps the representation it was folded in.  Integers of
two widths, decimals of two scales, and floating-point values with two bit
patterns are different constants, also where they denote one number.

**Floating-point constants are bit patterns.**  Equality therefore tells the two
zeros apart and makes a value that is no number equal to itself.

**Null is a value.**  The null literal is a constant; that something has no
constant is said by the absence of one.

## Main definitions

* `ConstantValue` — a constant
* `ConstantValue.ofInt64`, `ConstantValue.ofInt32` — integers of the common widths
* `ConstantValue.isNull`, `ConstantValue.asInt64?`
* `ConstantValue.chars`, `ConstantValue.text` — the written form
-/

namespace BoundTree

/-- A compile-time constant. -/
inductive ConstantValue where
  | null
  | boolean (value : Bool)
  | char (value : Char)
  | integral (value : Integral)
  /-- A 32-bit floating-point value, by its bit pattern. -/
  | single (bits : UInt32)
  /-- A 64-bit floating-point value, by its bit pattern. -/
  | double (bits : UInt64)
  | decimal (value : Decimal)
  | string (value : String)
  deriving DecidableEq

namespace ConstantValue

/-- A 64-bit signed integer as a constant of that width. -/
def ofInt64 (value : Int64) : ConstantValue :=
  integral (Integral.ofInt64 value)

/-- A 32-bit signed integer as a constant of that width. -/
def ofInt32 (value : Int32) : ConstantValue :=
  integral (Integral.ofInt32 value)

/-- The name of the representation. -/
def variantName : ConstantValue → String
  | null => "Null"
  | boolean _ => "Boolean"
  | char _ => "Char"
  | integral value => value.kind.name
  | single _ => "Single"
  | double _ => "Double"
  | decimal _ => "Decimal"
  | string _ => "String"

/-- Whether the constant is the null literal. -/
def isNull : ConstantValue → Bool
  | null => true
  | _ => false

/-- The constant as an integer, if it is integral and 64 signed bits can hold it. -/
def asInt64? : ConstantValue → Option Int
  | integral value => value.asInt64?
  | _ => none

/-- The written form of a constant. -/
def chars : ConstantValue → List Char
  | null => ['n', 'u', 'l', 'l']
  | boolean true => ['t', 'r', 'u', 'e']
  | boolean false => ['f', 'a', 'l', 's', 'e']
  | char value => Quoted.character value
  | integral value => value.chars
  | single bits => FloatFormat.single.chars bits.toNat
  | double bits => FloatFormat.double.chars bits.toNat
  | decimal value => value.chars
  | string value => Quoted.string value.toList

/-- The written form of a constant as a string. -/
def text (constant : ConstantValue) : String :=
  String.ofList constant.chars

end ConstantValue

end BoundTree
