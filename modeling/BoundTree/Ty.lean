import BoundTree.Numeral

/-!
# Types

The types that a binder resolves, as finite trees.  Two types are equal exactly
when they are built alike; the names of user types are compared as texts.

## Main definitions

* `Ty` — a resolved type
* `Ty.isNullable`
* `Ty.chars`, `Ty.text` — the written form
-/

namespace BoundTree

/-- A type that the binder resolved. -/
inductive Ty where
  /-- A fixed-width integral type. -/
  | integral (bits : UInt8) (signed : Bool)
  /-- A binary floating-point type. -/
  | float (bits : UInt8)
  | decimal
  | boolean
  | char
  | string
  | object
  /-- A user type with its type arguments, if it is generic. -/
  | named (name : String) (arguments : List Ty)
  /-- A type extended by the absent value. -/
  | nullable (underlying : Ty)
  /-- The placeholder for a type that could not be resolved. -/
  | error

namespace Ty

/-- The 32-bit signed integral type. -/
def int32 : Ty := integral 32 true

/-- The 64-bit signed integral type. -/
def int64 : Ty := integral 64 true

/-- Whether the type is a nullable one. -/
def isNullable : Ty → Bool
  | nullable _ => true
  | _ => false

/-! ### Equality -/

mutual

/-- Whether two types are built alike. -/
def same : Ty → Ty → Bool
  | integral bits signed, integral bits' signed' => bits == bits' && signed == signed'
  | float bits, float bits' => bits == bits'
  | decimal, decimal => true
  | boolean, boolean => true
  | char, char => true
  | string, string => true
  | object, object => true
  | named name arguments, named name' arguments' =>
    name == name' && sameAll arguments arguments'
  | nullable underlying, nullable underlying' => same underlying underlying'
  | error, error => true
  | _, _ => false

/-- Whether two lists of types are built alike. -/
def sameAll : List Ty → List Ty → Bool
  | [], [] => true
  | t :: ts, t' :: ts' => same t t' && sameAll ts ts'
  | _, _ => false

end

mutual

/-- The test for equality decides equality of types. -/
theorem same_iff (t u : Ty) : same t u ↔ t = u := by
  cases t <;> cases u <;> simp [same]
  case named.named name arguments name' arguments' =>
    simp [sameAll_iff arguments arguments']
  case nullable.nullable underlying underlying' =>
    exact same_iff underlying underlying'

theorem sameAll_iff (ts us : List Ty) : sameAll ts us ↔ ts = us := by
  cases ts <;> cases us <;> simp [sameAll]
  case cons.cons t ts u us =>
    simp [same_iff t u, sameAll_iff ts us]

end

instance : DecidableEq Ty :=
  fun t u => decidable_of_iff _ (same_iff t u)

/-! ### The written form -/

mutual

/-- The written form of a type, as diagnostics and dumps show it. -/
def chars : Ty → List Char
  | integral bits true => 'I' :: 'n' :: 't' :: Numeral.ofNat bits.toNat
  | integral bits false => 'U' :: 'I' :: 'n' :: 't' :: Numeral.ofNat bits.toNat
  | float bits => if bits = 32 then "Single".toList else "Double".toList
  | decimal => "Decimal".toList
  | boolean => "Boolean".toList
  | char => "Char".toList
  | string => "String".toList
  | object => "Object".toList
  | named name arguments => name.toList ++ argumentChars arguments
  | nullable underlying => chars underlying ++ ['?']
  | error => ['?']

/-- The argument list of a generic type in angle brackets, or nothing without arguments. -/
def argumentChars : List Ty → List Char
  | [] => []
  | t :: ts => '<' :: (chars t ++ moreChars ts)

/-- The further arguments of a list, each after a comma, and the closing bracket. -/
def moreChars : List Ty → List Char
  | [] => ['>']
  | t :: ts => ',' :: ' ' :: (chars t ++ moreChars ts)

end

/-- The written form of a type as a string. -/
def text (t : Ty) : String :=
  String.ofList t.chars

end Ty

end BoundTree
