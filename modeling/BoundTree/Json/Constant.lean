import BoundTree.Constant.Basic
import BoundTree.Json.Decimal
import BoundTree.Json.Float

/-!
# Constants as JSON

A constant is a choice among its representations: null is the bare name, and any
other constant is an object whose only member is the name of the representation
with the value.

## Main definitions

* `ConstantValue.json?` — the compact form of a constant that is not floating-point
* `ConstantValue.ofJson?`, `ConstantValue.read?` — reading a value and reading a text
-/

namespace BoundTree

namespace ConstantValue

/-- The constant as compact JSON.  Floating-point constants have no such form here. -/
def json? : ConstantValue → Option (List Char)
  | null => some (JsonText.string "Null".toList)
  | boolean true => some (JsonText.tagged "Boolean" ['t', 'r', 'u', 'e'])
  | boolean false => some (JsonText.tagged "Boolean" ['f', 'a', 'l', 's', 'e'])
  | char value => some (JsonText.tagged "Char" (JsonText.string [value]))
  | integral value => some (JsonText.tagged value.kind.name (Numeral.ofInt value.value))
  | single _ => none
  | double _ => none
  | decimal value => some (JsonText.tagged "Decimal" value.json)
  | string value => some (JsonText.tagged "String" (JsonText.string value.toList))

/-- The constant of a named representation whose value is given as JSON. -/
def ofContent? (name : String) (content : Json) : Option ConstantValue :=
  match name, content with
  | "Null", .null => some null
  | "Boolean", .boolean value => some (boolean value)
  | "Char", .string (some value) =>
    match value.toList with
    | [c] => some (char c)
    | _ => none
  | "Single", .number token =>
    (FloatFormat.single.ofToken? token).map fun bits => single (UInt32.ofNat bits)
  | "Double", .number token =>
    (FloatFormat.double.ofToken? token).map fun bits => double (UInt64.ofNat bits)
  | "Decimal", content => (Decimal.ofJson? content).map decimal
  | "String", .string (some value) => some (string value)
  | name, content => do
    let kind ← IntegralKind.named? name
    let value ← content.integer?
    let value ← Integral.ofInt? kind value
    return integral value

/-- The constant that a JSON value denotes. -/
def ofJson? (json : Json) : Option ConstantValue :=
  match json.choice? with
  | some ("Null", none) => some null
  | some (name, some content) => ofContent? name content
  | _ => none

/-- The constant that a JSON text denotes. -/
def read? (text : String) : Option ConstantValue :=
  Json.read? text.toList >>= ofJson?

end ConstantValue

end BoundTree
