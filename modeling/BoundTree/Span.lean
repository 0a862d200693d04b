import BoundTree.Numeral

/-!
# Spans

A span is a byte range of a source text, given by its two ends.  The ends are
64-bit words and nothing orders them: a span whose end lies before its start is
allowed and has length zero.

## Main definitions

* `Span` — a pair of ends
* `Span.length`, `Span.isEmpty`
* `Span.chars`, `Span.text` — the written form `start..end`
-/

namespace BoundTree

/-- A byte range of a source text. -/
@[ext]
structure Span where
  /-- The first byte of the range. -/
  start : UInt64
  /-- The byte after the last one of the range. -/
  stop : UInt64
  deriving DecidableEq

namespace Span

/-- The number of bytes in a span.  A reversed span has none. -/
def length (s : Span) : Nat :=
  s.stop.toNat - s.start.toNat

/-- Whether a span covers no byte. -/
def isEmpty (s : Span) : Bool :=
  s.length == 0

/-- The written form of a span: its ends with two points between them. -/
def chars (s : Span) : List Char :=
  Numeral.ofNat s.start.toNat ++ '.' :: '.' :: Numeral.ofNat s.stop.toNat

/-- The written form of a span as a string. -/
def text (s : Span) : String :=
  String.ofList s.chars

/-- A span is empty exactly if its end does not lie behind its start. -/
theorem isEmpty_iff (s : Span) : s.isEmpty ↔ s.stop.toNat ≤ s.start.toNat := by
  simp only [isEmpty, length, beq_iff_eq]
  omega

end Span

end BoundTree
