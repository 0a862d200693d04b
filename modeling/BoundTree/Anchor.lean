import BoundTree.Span

/-!
# Anchors

An anchor is an element of a syntax tree as seen from below: its grammar kind,
the bytes it covers, and the chain of elements that enclose it.  Two anchors are
equal when kind, span and the whole chain above them agree.

A shape is a test on anchors.  It names the grammar production that is expected
somewhere, such as the clause that owns the initial value of a local.

## Main definitions

* `Anchor` — an element with its chain of enclosing elements
* `Anchor.kind`, `Anchor.span`, `Anchor.parent?`
* `Shape` — a test on anchors; `Shape.ofKind`, `Shape.never`, `Shape.equalsValue`
-/

namespace BoundTree

/-- An element of a syntax tree with the chain of elements that enclose it. -/
inductive Anchor where
  /-- An element that nothing encloses. -/
  | root (kind : String) (span : Span)
  /-- An element directly below `parent`. -/
  | child (parent : Anchor) (kind : String) (span : Span)
  deriving DecidableEq

namespace Anchor

/-- The grammar kind of the element. -/
def kind : Anchor → String
  | root kind _ => kind
  | child _ kind _ => kind

/-- The bytes that the element covers. -/
def span : Anchor → Span
  | root _ span => span
  | child _ _ span => span

/-- The enclosing element, or nothing at the root. -/
def parent? : Anchor → Option Anchor
  | root _ _ => none
  | child parent _ _ => some parent

end Anchor

/-- A test on the elements of a syntax tree. -/
abbrev Shape := Anchor → Bool

namespace Shape

/-- The shape of every element of one grammar kind. -/
def ofKind (kind : String) : Shape :=
  fun anchor => anchor.kind == kind

/-- The shape that no element has. -/
def never : Shape :=
  fun _ => false

/-- The shape of the `= value` clause of a local declaration. -/
def equalsValue : Shape :=
  ofKind "equals_value_clause"

end Shape

end BoundTree
