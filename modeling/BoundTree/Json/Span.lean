import BoundTree.Json.Record
import BoundTree.Json.Writer
import BoundTree.Span

/-!
# Spans as JSON

A span is a record of its two ends, `start` and `end`, each an integer of 64 bits
without sign.

## Main definitions

* `Span.json` — the compact form
* `Span.ofJson?`, `Span.read?` — reading a value and reading a text
-/

namespace BoundTree

namespace Span

/-- The span as compact JSON. -/
def json (s : Span) : List Char :=
  JsonText.object
    [("start", Numeral.ofNat s.start.toNat), ("end", Numeral.ofNat s.stop.toNat)]

/-- A word of 64 bits without sign. -/
def wordOfJson? (json : Json) : Option UInt64 := do
  let n ← json.integer?
  if 0 ≤ n ∧ n < 18446744073709551616 then
    return UInt64.ofNat n.toNat
  else
    none

/-- The span that a JSON value denotes. -/
def ofJson? (json : Json) : Option Span := do
  let (start, stop) ← json.record? "start" "end"
  return ⟨← wordOfJson? start, ← wordOfJson? stop⟩

/-- The span that a JSON text denotes. -/
def read? (text : String) : Option Span :=
  Json.read? text.toList >>= ofJson?

end Span

end BoundTree
