import BoundTree.Numeral

/-!
# Writing JSON

The compact form: no white space, members in a fixed order.  In strings only the
quote, the backslash and the control characters below the space are escaped; of
the latter five have a short escape and the others are written by their number in
four digits.

## Main definitions

* `JsonText.string` — a text as a JSON string
* `JsonText.object` — an object from its members, whose values are written already
* `JsonText.tagged` — an object of one member
-/

namespace BoundTree

namespace JsonText

/-- A control character written by its number, in four hexadecimal digits. -/
def numbered (c : Char) : List Char :=
  '\\' :: 'u' :: (Numeral.hex c.toNat).leftpad 4 '0'

/-- How a character is written in a string. -/
def escape (c : Char) : List Char :=
  if c = '"' ∨ c = '\\' then ['\\', c]
  else if c = '\x08' then ['\\', 'b']
  else if c = '\x0c' then ['\\', 'f']
  else if c = '\n' then ['\\', 'n']
  else if c = '\r' then ['\\', 'r']
  else if c = '\t' then ['\\', 't']
  else if c.toNat < 0x20 then numbered c
  else [c]

/-- A text as a JSON string. -/
def string (cs : List Char) : List Char :=
  '"' :: (cs.flatMap escape ++ ['"'])

/-- A member of an object, from its key and its written value. -/
def member (key : String) (value : List Char) : List Char :=
  string key.toList ++ ':' :: value

/-- An object from its members in order, their values written already. -/
def object (fields : List (String × List Char)) : List Char :=
  '\x7b' :: ([','].intercalate (fields.map fun (key, value) => member key value) ++ ['\x7d'])

/-- An object of one member. -/
def tagged (tag : String) (value : List Char) : List Char :=
  object [(tag, value)]

end JsonText

end BoundTree
