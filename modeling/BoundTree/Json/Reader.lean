import BoundTree.Json.Basic
import BoundTree.Numeral

/-!
# Reading JSON

A strict reader: no leading zeros, no control characters in strings, no trailing
commas, nothing but white space after the value.

**Each reader takes a list of characters and returns the rest.**  Strings and
numbers are read by recursion on the list.  Values nest, so their readers carry a
bound on the number of steps; `Json.read?` starts with a bound that no text
exhausts, since of any two consecutive steps one consumes a character.

## Main definitions

* `Json.skipSpace` — drops white space
* `Json.readString`, `Json.readNumber` — tokens
* `Json.readValue` — one value
* `Json.read?` — a whole text
-/

namespace BoundTree

namespace Json

/-! ### White space -/

/-- Whether a character is white space in JSON. -/
def isSpace (c : Char) : Bool :=
  c == ' ' || c == '\t' || c == '\n' || c == '\r'

/-- The text after its leading white space. -/
def skipSpace (cs : List Char) : List Char :=
  cs.dropWhile isSpace

/-! ### Strings -/

/-- A part of a string as it is written: a character, or the number of a 16-bit
unit given by an escape. -/
inductive Piece where
  | char (c : Char)
  | unit (code : Nat)
  deriving DecidableEq

/-- The character that a one-letter escape stands for. -/
def shortEscape? : Char → Option Char
  | '"' => some '"'
  | '\\' => some '\\'
  | '/' => some '/'
  | 'b' => some '\x08'
  | 'f' => some '\x0c'
  | 'n' => some '\n'
  | 'r' => some '\r'
  | 't' => some '\t'
  | _ => none

/-- The value of a hexadecimal digit of either case. -/
def hexDigit? (c : Char) : Option Nat :=
  if c.isDigit then some (c.toNat - '0'.toNat)
  else if 'a' ≤ c ∧ c ≤ 'f' then some (c.toNat - 'a'.toNat + 10)
  else if 'A' ≤ c ∧ c ≤ 'F' then some (c.toNat - 'A'.toNat + 10)
  else none

/-- The number that four hexadecimal digits denote. -/
def hexUnit? (a b c d : Char) : Option Nat := do
  let a ← hexDigit? a
  let b ← hexDigit? b
  let c ← hexDigit? c
  let d ← hexDigit? d
  return ((a * 16 + b) * 16 + c) * 16 + d

/-- The pieces of a string up to its closing quote, and the text after the quote. -/
def readPieces : List Char → Option (List Piece × List Char)
  | [] => none
  | '"' :: rest => some ([], rest)
  | '\\' :: 'u' :: a :: b :: c :: d :: rest => do
    let code ← hexUnit? a b c d
    let (pieces, rest) ← readPieces rest
    return (.unit code :: pieces, rest)
  | '\\' :: e :: rest => do
    let c ← shortEscape? e
    let (pieces, rest) ← readPieces rest
    return (.char c :: pieces, rest)
  | c :: rest =>
    if c = '\\' ∨ c.toNat < 0x20 then
      none
    else do
      let (pieces, rest) ← readPieces rest
      return (.char c :: pieces, rest)

/-- The first unit of a surrogate pair. -/
def isLeading (code : Nat) : Bool :=
  decide (0xD800 ≤ code) && decide (code < 0xDC00)

/-- The second unit of a surrogate pair. -/
def isTrailing (code : Nat) : Bool :=
  decide (0xDC00 ≤ code) && decide (code < 0xE000)

/-- The characters that pieces denote.  Two units make one character when they
form a surrogate pair, and a unit of a pair has no meaning alone. -/
def assemble : List Piece → Option (List Char)
  | [] => some []
  | .char c :: rest => (assemble rest).map (c :: ·)
  | .unit a :: .unit b :: rest =>
    if isLeading a then
      if isTrailing b then
        (assemble rest).map
          (Char.ofNat (0x10000 + (a - 0xD800) * 0x400 + (b - 0xDC00)) :: ·)
      else
        none
    else if isTrailing a then
      none
    else
      (assemble (.unit b :: rest)).map (Char.ofNat a :: ·)
  | .unit a :: rest =>
    if isLeading a || isTrailing a then none else (assemble rest).map (Char.ofNat a :: ·)

/-- A string after its opening quote, and the text after its closing one. -/
def readString (cs : List Char) : Option (StringToken × List Char) :=
  (readPieces cs).map fun (pieces, rest) => ((assemble pieces).map String.ofList, rest)

/-! ### Numbers -/

/-- A leading minus, if there is one, and the text after it. -/
def readMinus : List Char → Bool × List Char
  | '-' :: rest => (true, rest)
  | cs => (false, cs)

/-- A run of at least one digit and the text after it. -/
def readDigits (cs : List Char) : Option (List Char × List Char) :=
  match cs.takeWhile Char.isDigit with
  | [] => none
  | digits => some (digits, cs.dropWhile Char.isDigit)

/-- The digits before the point: a zero alone, or digits that begin with another one. -/
def readWhole (cs : List Char) : Option (List Char × List Char) :=
  match readDigits cs with
  | some ('0' :: _ :: _, _) => none
  | result => result

/-- The digits after a point, if there is a point, and the text after them. -/
def readFraction : List Char → Option (Option (List Char) × List Char)
  | '.' :: rest => (readDigits rest).map fun (digits, rest) => (some digits, rest)
  | cs => some (none, cs)

/-- A sign in front of an exponent: whether it is a minus, and the text after it. -/
def readSign : List Char → Bool × List Char
  | '-' :: rest => (true, rest)
  | '+' :: rest => (false, rest)
  | cs => (false, cs)

/-- The exponent after its mark. -/
def readPower (cs : List Char) : Option (Int × List Char) :=
  let (negative, cs) := readSign cs
  (readDigits cs).map fun (digits, rest) =>
    (if negative then -(Numeral.value digits : Int) else Numeral.value digits, rest)

/-- The exponent, if there is one, and the text after it. -/
def readExponent : List Char → Option (Option Int × List Char)
  | 'e' :: rest => (readPower rest).map fun (power, rest) => (some power, rest)
  | 'E' :: rest => (readPower rest).map fun (power, rest) => (some power, rest)
  | cs => some (none, cs)

/-- A fraction without the zeros that end it. -/
def trimFraction (fraction : List Char) : List Char :=
  (fraction.reverse.dropWhile (· == '0')).reverse

/-- The number with the given parts.  The zeros that end a fraction do not count. -/
def numberToken (negative : Bool) (whole : List Char) :
    Option (List Char) → Option Int → NumberToken
  | none, none => .integer negative (Numeral.value whole)
  | fraction, power =>
    let fraction := trimFraction (fraction.getD [])
    .decimal negative
      ⟨Numeral.value (whole ++ fraction), power.getD 0 - fraction.length⟩

/-- A number and the text after it. -/
def readNumber (cs : List Char) : Option (NumberToken × List Char) := do
  let (negative, cs) := readMinus cs
  let (whole, cs) ← readWhole cs
  let (fraction, cs) ← readFraction cs
  let (power, cs) ← readExponent cs
  return (numberToken negative whole fraction power, cs)

/-! ### Values -/

mutual

/-- A value, after white space, and the text after it. -/
def readValue : Nat → List Char → Option (Json × List Char)
  | 0, _ => none
  | steps + 1, cs =>
    match skipSpace cs with
    | 'n' :: 'u' :: 'l' :: 'l' :: rest => some (.null, rest)
    | 't' :: 'r' :: 'u' :: 'e' :: rest => some (.boolean true, rest)
    | 'f' :: 'a' :: 'l' :: 's' :: 'e' :: rest => some (.boolean false, rest)
    | '"' :: rest => (readString rest).map fun (token, rest) => (.string token, rest)
    | '[' :: rest =>
      match skipSpace rest with
      | ']' :: rest => some (.array [], rest)
      | rest => (readItems steps rest).map fun (items, rest) => (.array items, rest)
    | '\x7b' :: rest =>
      match skipSpace rest with
      | '\x7d' :: rest => some (.object [], rest)
      | rest => (readMembers steps rest).map fun (members, rest) => (.object members, rest)
    | rest => (readNumber rest).map fun (token, rest) => (.number token, rest)

/-- The items of an array from the next one to the closing bracket. -/
def readItems : Nat → List Char → Option (List Json × List Char)
  | 0, _ => none
  | steps + 1, cs => do
    let (item, rest) ← readValue steps cs
    match skipSpace rest with
    | ']' :: rest => return ([item], rest)
    | ',' :: rest =>
      let (items, rest) ← readItems steps rest
      return (item :: items, rest)
    | _ => none

/-- The members of an object from the next one to the closing brace. -/
def readMembers : Nat → List Char → Option (List (StringToken × Json) × List Char)
  | 0, _ => none
  | steps + 1, cs => do
    let '"' :: rest := skipSpace cs | none
    let (key, rest) ← readString rest
    let ':' :: rest := skipSpace rest | none
    let (value, rest) ← readValue steps rest
    match skipSpace rest with
    | '\x7d' :: rest => return ([(key, value)], rest)
    | ',' :: rest =>
      let (members, rest) ← readMembers steps rest
      return ((key, value) :: members, rest)
    | _ => none

end

/-- The value that a whole text denotes, with white space around it. -/
def read? (cs : List Char) : Option Json := do
  let (value, rest) ← readValue (2 * cs.length + 2) cs
  match skipSpace rest with
  | [] => return value
  | _ :: _ => none

end Json

end BoundTree
