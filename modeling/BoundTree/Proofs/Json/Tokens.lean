import BoundTree.Json.Reader
import BoundTree.Json.Writer
import Mathlib.Tactic.SplitIfs

/-!
# Written tokens are read back

Strings and integers as the writer writes them, in front of any text that may follow.

**A string ends by itself.**  Every character is written so that the reader comes out of
it with one piece, and the first quote outside of an escape is the closing one.  The
pieces are characters but for the control characters without a short escape; those are
single units, and none of them is half of a pair.

**An integer ends where it must.**  Its digits say nothing about what follows, so it is
read back only in front of a character that cannot go on with a number.

## Main definitions

* `Json.pieceOf` — the piece that the reader makes of a written character
* `Json.EndsNumber` — a text that does not go on with a number

## Main statements

* `Json.readString_escape` — a string is read back, whatever follows
* `Json.readNumber_ofInt` — an integer is read back before a text that ends it
-/

namespace BoundTree

namespace Json

/-! ### Strings -/

/-- Whether a character is written by its number. -/
def IsNumbered (c : Char) : Prop :=
  c.toNat < 0x20 ∧ c ∉ ['\x08', '\x0c', '\n', '\r', '\t']

instance (c : Char) : Decidable (IsNumbered c) :=
  inferInstanceAs (Decidable (_ ∧ _))

/-- The piece that the reader makes of a character as it is written. -/
def pieceOf (c : Char) : Piece :=
  if IsNumbered c then .unit c.toNat else .char c

/-- A number below 32 has two hexadecimal digits at most, and zeros are put in front. -/
theorem hex_padded : ∀ n < 32, (Numeral.hex n).leftpad 4 '0' =
      ['0', '0', (n / 16).digitChar, (n % 16).digitChar] ∧
    hexUnit? '0' '0' (n / 16).digitChar (n % 16).digitChar = some n := by
  decide

/-- The numbered escape of a control character is read as its code unit. -/
theorem readPieces_numbered {c : Char} (low : c.toNat < 32) (rest : List Char) :
    readPieces (JsonText.numbered c ++ rest) =
      (readPieces rest).map fun (pieces, rest) => (.unit c.toNat :: pieces, rest) := by
  obtain ⟨digits, value⟩ := hex_padded c.toNat low
  rw [JsonText.numbered, digits]
  simp only [List.cons_append, List.nil_append, readPieces, value]
  cases readPieces rest <;> rfl

/-- A character that needs no escape is read as itself. -/
theorem readPieces_plain {c : Char} (noQuote : c ≠ '"') (noBackslash : c ≠ '\\')
    (visible : ¬ c.toNat < 32) (rest : List Char) :
    readPieces (c :: rest) =
      (readPieces rest).map fun (pieces, rest) => (.char c :: pieces, rest) := by
  have ordinary : ¬ (c = '\\' ∨ c.toNat < 32) := not_or.2 ⟨noBackslash, visible⟩
  rw [readPieces, if_neg ordinary]
  · cases readPieces rest <;> rfl
  · exact noQuote
  · exact fun _ _ _ _ _ isBackslash _ => noBackslash isBackslash
  · exact fun _ _ isBackslash _ => noBackslash isBackslash

/-- A short escape is read as the character that it stands for. -/
theorem readPieces_short {e c : Char} (noNumber : e ≠ 'u') (meant : shortEscape? e = some c)
    (rest : List Char) :
    readPieces ('\\' :: e :: rest) =
      (readPieces rest).map fun (pieces, rest) => (.char c :: pieces, rest) := by
  rw [readPieces, meant]
  · cases readPieces rest <;> rfl
  · exact fun _ _ _ _ _ isNumber _ => noNumber isNumber

/-- **The reader comes out of every written character with one piece.** -/
theorem readPieces_escape (c : Char) (rest : List Char) :
    readPieces (JsonText.escape c ++ rest) =
      (readPieces rest).map fun (pieces, rest) => (pieceOf c :: pieces, rest) := by
  unfold JsonText.escape
  -- one case for each way of writing a character, in the order of the tests
  split_ifs with isMarked isBackspace isFormFeed isFeed isReturn isTab isLow
  · rcases isMarked with rfl | rfl <;> exact readPieces_short (by decide) rfl rest
  · subst isBackspace
    exact readPieces_short (by decide) rfl rest
  · subst isFormFeed
    exact readPieces_short (by decide) rfl rest
  · subst isFeed
    exact readPieces_short (by decide) rfl rest
  · subst isReturn
    exact readPieces_short (by decide) rfl rest
  · subst isTab
    exact readPieces_short (by decide) rfl rest
  · have numbered : IsNumbered c :=
      ⟨isLow, by simp [isBackspace, isFormFeed, isFeed, isReturn, isTab]⟩
    rw [pieceOf, if_pos numbered]
    exact readPieces_numbered isLow rest
  · have notNumbered : ¬ IsNumbered c := fun numbered => isLow numbered.1
    obtain ⟨noQuote, noBackslash⟩ := not_or.1 isMarked
    rw [pieceOf, if_neg notNumbered]
    exact readPieces_plain noQuote noBackslash isLow rest

/-- **Escaped characters are read piece by piece**, up to the quote that ends the string. -/
theorem readPieces_string (cs rest : List Char) :
    readPieces (cs.flatMap JsonText.escape ++ '"' :: rest) = some (cs.map pieceOf, rest) := by
  induction cs with
  | nil => rfl
  | cons c cs inductionHypothesis =>
    rw [List.flatMap_cons, List.append_assoc, readPieces_escape, inductionHypothesis]
    rfl

/-- A unit that is not half of a pair is a character of its own, whatever follows. -/
theorem assemble_unit {code : Nat} (alone : code < 32) (pieces : List Piece) :
    assemble (.unit code :: pieces) = (assemble pieces).map (Char.ofNat code :: ·) := by
  have notLeading : isLeading code = false := by
    simp [isLeading]
    omega
  have notTrailing : isTrailing code = false := by
    simp [isTrailing]
    omega
  cases pieces with
  | nil => simp [assemble, notLeading, notTrailing]
  | cons piece pieces => cases piece <;> simp [assemble, notLeading, notTrailing]

/-- The pieces of characters are put together to these characters. -/
theorem assemble_map_pieceOf (cs : List Char) : assemble (cs.map pieceOf) = some cs := by
  induction cs with
  | nil => rfl
  | cons c cs inductionHypothesis =>
    rw [List.map_cons, pieceOf]
    split
    · next numbered =>
      rw [assemble_unit numbered.1, inductionHypothesis, Option.map_some, Char.ofNat_toNat]
    · rw [assemble, inductionHypothesis, Option.map_some]

/-- **A string is read back**, whatever follows its closing quote. -/
theorem readString_escape (cs rest : List Char) :
    readString (cs.flatMap JsonText.escape ++ '"' :: rest) =
      some (some (String.ofList cs), rest) := by
  rw [readString, readPieces_string, Option.map_some]
  show some ((assemble (cs.map pieceOf)).map String.ofList, rest) = _
  rw [assemble_map_pieceOf, Option.map_some]

/-! ### Integers -/

/-- The text does not go on with a number: it is empty or begins with a character that is
no digit, no point and no mark of an exponent. -/
def EndsNumber (rest : List Char) : Prop :=
  ∀ c ∈ rest.head?, c.isDigit = false ∧ c ≠ '.' ∧ c ≠ 'e' ∧ c ≠ 'E'

/-- The token of an integer as it is written. -/
def integerToken : Int → NumberToken
  | .ofNat n => .integer false n
  | .negSucc n => .integer true (n + 1)

theorem readDigits_ofNat (n : Nat) {rest : List Char} (ends : EndsNumber rest) :
    readDigits (Numeral.ofNat n ++ rest) = some (Numeral.ofNat n, rest) := by
  have digits : ∀ c ∈ Numeral.ofNat n, c.isDigit = true :=
    fun _ mem => Numeral.isDigit_of_mem_ofNat mem
  have stops : rest.takeWhile Char.isDigit = [] ∧ rest.dropWhile Char.isDigit = rest := by
    cases rest with
    | nil => exact ⟨rfl, rfl⟩
    | cons c rest => simp [(ends c rfl).1]
  rw [readDigits, List.takeWhile_append_of_pos digits, List.dropWhile_append_of_pos digits,
    stops.1, stops.2, List.append_nil]
  split
  · next empty => exact absurd empty (Numeral.ofNat_ne_nil n)
  · rfl

/-- A numeral has no superfluous zeros, so the reader of whole numbers takes all of it. -/
theorem readWhole_ofNat (n : Nat) {rest : List Char} (ends : EndsNumber rest) :
    readWhole (Numeral.ofNat n ++ rest) = some (Numeral.ofNat n, rest) := by
  rw [readWhole, readDigits_ofNat n ends]
  -- a numeral of two digits or more does not begin with a zero
  split
  · next padded =>
    have shown := (Prod.mk.inj (Option.some.inj padded)).1
    exact absurd (Numeral.eq_nil_of_ofNat_eq_zero_cons shown) (List.cons_ne_nil _ _)
  · rfl

/-- A numeral begins with a digit. -/
theorem exists_digit_cons (n : Nat) :
    ∃ c digits, Numeral.ofNat n = c :: digits ∧ c.isDigit = true := by
  obtain ⟨c, digits, shown⟩ := List.exists_cons_of_ne_nil (Numeral.ofNat_ne_nil n)
  exact ⟨c, digits, shown, Numeral.isDigit_of_mem_ofNat (shown ▸ List.mem_cons_self)⟩

theorem readMinus_ofNat (n : Nat) (rest : List Char) :
    readMinus (Numeral.ofNat n ++ rest) = (false, Numeral.ofNat n ++ rest) := by
  obtain ⟨c, digits, shown, isDigit⟩ := exists_digit_cons n
  rw [shown, List.cons_append, readMinus]
  rintro _ starts
  obtain ⟨rfl, -⟩ := List.cons.inj starts
  exact absurd isDigit (by decide)

theorem readFraction_of_ends {rest : List Char} (ends : EndsNumber rest) :
    readFraction rest = some (none, rest) := by
  rw [readFraction]
  rintro others rfl
  exact absurd rfl (ends '.' rfl).2.1

theorem readExponent_of_ends {rest : List Char} (ends : EndsNumber rest) :
    readExponent rest = some (none, rest) := by
  rw [readExponent]
  · rintro others rfl
    exact absurd rfl (ends 'e' rfl).2.2.1
  · rintro others rfl
    exact absurd rfl (ends 'E' rfl).2.2.2

/-- **An integer is read back** before a text that does not go on with a number. -/
theorem readNumber_ofInt (n : Int) {rest : List Char} (ends : EndsNumber rest) :
    readNumber (Numeral.ofInt n ++ rest) = some (integerToken n, rest) := by
  cases n with
  | ofNat n =>
    rw [Numeral.ofInt, readNumber, readMinus_ofNat]
    simp [readWhole_ofNat n ends, readFraction_of_ends ends, readExponent_of_ends ends,
      numberToken, integerToken]
  | negSucc n =>
    rw [Numeral.ofInt, List.cons_append, readNumber, readMinus]
    simp [readWhole_ofNat (n + 1) ends, readFraction_of_ends ends, readExponent_of_ends ends,
      numberToken, integerToken]

end Json

end BoundTree
