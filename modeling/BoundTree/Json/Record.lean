import BoundTree.Json.Reader

/-!
# Reading typed values from JSON

Rules that are shared by all typed readers.

**Records.**  A record of two fields is read from an object that has each field
exactly once, in any order and among any other members, or from an array of
exactly the two values.  A key of the object without a text is an error, as it
might be a field; what the other members hold does not matter.

**Choices.**  A choice among named forms is a string with the name, or an object
of exactly one member, the name with the content of the form.

**Integers.**  An integer is written without fraction and exponent.  Integers of
at most 64 bits refuse a minus before zero; a wide integer reads it as zero.

## Main definitions

* `Json.record?` — the values of the two fields of a record
* `Json.choice?` — the name and the content of a choice
* `Json.unit?` — the name of a choice without content
* `Json.integer?`, `Json.wideInteger?` — integers
-/

namespace BoundTree

namespace Json

/-! ### Records -/

/-- The values of the members with a given key, in order. -/
def valuesOf (key : String) (members : List (StringToken × Json)) : List Json :=
  members.filterMap fun (name, value) => if name = some key then some value else none

/-- The value of the only member with a given key. -/
def only? (key : String) (members : List (StringToken × Json)) : Option Json :=
  match valuesOf key members with
  | [value] => some value
  | _ => none

/-- The values of the two fields of a record. -/
def record? (first second : String) : Json → Option (Json × Json)
  | array [x, y] => some (x, y)
  | object members =>
    if members.all (·.1.isSome) then do
      let x ← only? first members
      let y ← only? second members
      return (x, y)
    else
      none
  | _ => none

/-! ### Choices -/

/-- The name of a choice, with its content if it is written as an object. -/
def choice? : Json → Option (String × Option Json)
  | string (some name) => some (name, none)
  | object [(some name, content)] => some (name, some content)
  | _ => none

/-- The name of a choice without content, which may also be given as null. -/
def unit? (json : Json) : Option String :=
  match choice? json with
  | some (name, none) => some name
  | some (name, some null) => some name
  | _ => none

/-! ### Integers -/

/-- An integer of at most 64 bits. -/
def integer? : Json → Option Int
  | number (.integer false magnitude) => some magnitude
  | number (.integer true magnitude) => if magnitude = 0 then none else some (-magnitude)
  | _ => none

/-- An integer of more than 64 bits. -/
def wideInteger? : Json → Option Int
  | number (.integer false magnitude) => some magnitude
  | number (.integer true magnitude) => some (-magnitude)
  | _ => none

end Json

end BoundTree
