import BoundTree.Floating.Scientific

/-!
# JSON values

A JSON value as its text gives it.  Objects are ordered lists of members and may
repeat a key, and numbers keep the form in which they were written: whether a
fraction or an exponent was there decides later what a number can be read as.

**Strings without a text.**  An escape may name half of a surrogate pair.  Such a
string is well formed as JSON and denotes no text, so it can be skipped and cannot
be used.

## Main definitions

* `NumberToken` — a number as written
* `StringToken` — a string, or the absence of a text
* `Json` — a value
-/

namespace BoundTree

/-- A number as it is written in JSON. -/
inductive NumberToken where
  /-- A number without fraction and exponent.  A minus may stand before zero. -/
  | integer (negative : Bool) (magnitude : Nat)
  /-- A number with a fraction, an exponent or both. -/
  | decimal (negative : Bool) (magnitude : Scientific)
  deriving DecidableEq

/-- The text of a JSON string, or nothing when an escape in it names an unpaired
surrogate. -/
abbrev StringToken := Option String

/-- A JSON value. -/
inductive Json where
  | null
  | boolean (value : Bool)
  | number (token : NumberToken)
  | string (token : StringToken)
  | array (items : List Json)
  | object (members : List (StringToken × Json))

end BoundTree
