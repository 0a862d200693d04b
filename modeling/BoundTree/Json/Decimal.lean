import BoundTree.Decimal
import BoundTree.Json.Record
import BoundTree.Json.Writer

/-!
# Decimals as JSON

A decimal is a record of its parts, `mantissa` and `scale`.  Reading asks only
that storage can hold the parts, so every scale below 256 is read, also one above
the largest scale of a literal.

## Main definitions

* `Decimal.json` — the compact form
* `Decimal.ofJson?`, `Decimal.read?` — reading a value and reading a text
-/

namespace BoundTree

namespace Decimal

/-- The decimal as compact JSON. -/
def json (d : Decimal) : List Char :=
  JsonText.object
    [("mantissa", Numeral.ofInt d.mantissa), ("scale", Numeral.ofNat d.scale)]

/-- The decimal that a JSON value denotes. -/
def ofJson? (json : Json) : Option Decimal := do
  let (mantissa, scale) ← json.record? "mantissa" "scale"
  let mantissa ← mantissa.wideInteger?
  let scale ← scale.integer?
  if 0 ≤ scale then stored? mantissa scale.toNat else none

/-- The decimal that a JSON text denotes. -/
def read? (text : String) : Option Decimal :=
  Json.read? text.toList >>= ofJson?

end Decimal

end BoundTree
