import BoundTree.Numeral
import BoundTree.Text.GraphemeExtend
import BoundTree.Text.Unprintable

/-!
# Quoted text

Text is shown between two equal quotes, on one line and in visible characters.
Five control-like characters and the quote itself have a short escape.  Every
other character that cannot be shown on its own is written by its number, in
lower-case hexadecimal without padding.

**Which characters are hidden is a parameter.**  The escapes can be undone
whatever that class is; `isHidden` is the class used for constants.

## Main definitions

* `Quoted.escape` — how one character is shown
* `Quoted.enclose` — a whole text between quotes
* `Quoted.isHidden` — characters shown by their number
-/

namespace BoundTree

namespace Quoted

/-- A character written by its number, as in `\u` with braces around the digits. -/
def numbered (c : Char) : List Char :=
  '\\' :: 'u' :: '\x7b' :: (Numeral.hex c.toNat ++ ['\x7d'])

/-- How a character is shown between two quotes.  The other kind of quote needs
no escape, and a hidden character without a short escape is numbered. -/
def escape (hidden : Char → Bool) (quote c : Char) : List Char :=
  if c = '\x00' then ['\\', '0']
  else if c = '\t' then ['\\', 't']
  else if c = '\n' then ['\\', 'n']
  else if c = '\r' then ['\\', 'r']
  else if c = '\\' ∨ c = quote then ['\\', c]
  else if hidden c then numbered c
  else [c]

/-- A text between two quotes, each of its characters escaped where needed. -/
def enclose (hidden : Char → Bool) (quote : Char) (cs : List Char) : List Char :=
  quote :: (cs.flatMap (escape hidden quote) ++ [quote])

/-- Whether a character is shown by its number: it has no visible form, or it
would be drawn onto the character before it. -/
def isHidden (c : Char) : Bool :=
  Text.isGraphemeExtender c || Text.isUnprintable c

/-- A text in double quotes. -/
def string (cs : List Char) : List Char :=
  enclose isHidden '"' cs

/-- A character in single quotes. -/
def character (c : Char) : List Char :=
  enclose isHidden '\x27' [c]

/-- Control characters are hidden. -/
theorem isHidden_of_control {c : Char} (h : c.toNat < 32) : isHidden c := by
  simp [isHidden, Text.isUnprintable_of_control h]

end Quoted

end BoundTree
