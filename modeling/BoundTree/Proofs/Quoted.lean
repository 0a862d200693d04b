import BoundTree.Json.Reader
import BoundTree.Text.Quoted
import Mathlib.Data.List.Forall2
import Mathlib.Tactic.SplitIfs

/-!
# Reading quoted text

Between its quotes, a quoted text is a row of pieces, one for each character of the text
that it stands for.  A piece is that character alone, or an escape: a backslash with a letter,
or with a number in hexadecimal digits between braces.

The reader of quoted text goes through it character by character and remembers how far
into an escape it is.  It undoes every escape and stops at the first quote outside of
one.

**Quoted text delimits itself.**  Whatever follows the closing quote, the reader gives
back the text between the quotes and what follows.  So two quoted texts that agree up
to what follows them are one text.

## Main definitions

* `Quoted.Progress` — how far into an escape the reader is
* `Quoted.readFrom?` — the reader
* `Quoted.IsQuote` — the two quotes
* `Quoted.Spells` — the pieces that stand for a character

## Main statements

* `Quoted.spells_escape` — each character is shown as a piece that stands for it
* `Quoted.readFrom?_pieces` — pieces are read as the text that they stand for
* `Quoted.readFrom?_enclose` — reading undoes quoting, whatever follows
* `Quoted.enclose_append_inj` — quoted text delimits itself
* `Quoted.not_isControl_of_mem_enclose` — quoted text holds no control character
-/

namespace BoundTree

namespace Quoted

/-- How far into an escape a reader of quoted text is. -/
inductive Progress where
  /-- Outside of any escape. -/
  | between
  /-- After a backslash. -/
  | begun
  /-- After the letter that announces a number. -/
  | announced
  /-- Among the digits of a number, with the value of those read. -/
  | counting (value : Nat)

/-- The character that a one-letter escape stands for. -/
def shortEscape? : Char → Option Char
  | '0' => some '\x00'
  | 't' => some '\t'
  | 'n' => some '\n'
  | 'r' => some '\r'
  | '\\' => some '\\'
  | '"' => some '"'
  | '\x27' => some '\x27'
  | _ => none

/-- The text up to the closing quote with its escapes undone, and what follows the quote. -/
def readFrom? (quote : Char) : Progress → List Char → Option (List Char × List Char)
  | _, [] => none
  | .between, c :: rest =>
    if c = quote then some ([], rest)
    else if c = '\\' then readFrom? quote .begun rest
    else (readFrom? quote .between rest).map fun (text, rest) => (c :: text, rest)
  | .begun, c :: rest =>
    if c = 'u' then readFrom? quote .announced rest
    else (shortEscape? c).bind fun meant =>
      (readFrom? quote .between rest).map fun (text, rest) => (meant :: text, rest)
  | .announced, c :: rest =>
    if c = '\x7b' then readFrom? quote (.counting 0) rest else none
  | .counting value, c :: rest =>
    if c = '\x7d' then
      (readFrom? quote .between rest).map fun (text, rest) => (Char.ofNat value :: text, rest)
    else (Json.hexDigit? c).bind fun digit =>
      readFrom? quote (.counting (value * 16 + digit)) rest

/-- The character is one of the two quotes. -/
def IsQuote (c : Char) : Prop :=
  c = '"' ∨ c = '\x27'

/-! ### Pieces of quoted text -/

/-- The letters that are escaped, with the characters that they then stand for. -/
def shortEscapes (quote : Char) : List (Char × Char) :=
  [('0', '\x00'), ('t', '\t'), ('n', '\n'), ('r', '\r'), ('\\', '\\'), (quote, quote)]

/-- The number that hexadecimal digits denote behind a number that is already read, or nothing
if another character is among them. -/
def hexValue? (start : Nat) (digits : List Char) : Option Nat :=
  digits.foldlM (fun value c => (Json.hexDigit? c).map fun digit => value * 16 + digit) start

/-- A piece of quoted text, and the character that it stands for. -/
inductive Spells (quote : Char) : List Char → Char → Prop
  /-- A character stands for itself unless it is the quote or the backslash. -/
  | bare {c : Char} : c ≠ quote → c ≠ '\\' → Spells quote [c] c
  /-- Some letters are escaped with a backslash alone. -/
  | short {letter c : Char} :
      (letter, c) ∈ shortEscapes quote → Spells quote ['\\', letter] c
  /-- Every character can be written by its number. -/
  | numbered {digits : List Char} {c : Char} :
      digits ≠ [] → hexValue? 0 digits = some c.toNat →
        Spells quote ('\\' :: 'u' :: '\x7b' :: (digits ++ ['\x7d'])) c

theorem hexDigit?_digitChar : ∀ n < 16, Json.hexDigit? n.digitChar = some n := by
  decide

theorem hexValue?_cons (start : Nat) (c : Char) (digits : List Char) :
    hexValue? start (c :: digits) =
      (Json.hexDigit? c).bind fun digit => hexValue? (start * 16 + digit) digits := by
  rw [hexValue?, List.foldlM_cons]
  cases Json.hexDigit? c <;> rfl

/-- One more digit multiplies by the base and adds the digit. -/
theorem hexValue?_append_singleton {start value n : Nat} {digits : List Char}
    (denotes : hexValue? start digits = some value) (small : n < 16) :
    hexValue? start (digits ++ [n.digitChar]) = some (value * 16 + n) := by
  unfold hexValue? at denotes ⊢
  rw [List.foldlM_append, denotes]
  simp [hexDigit?_digitChar n small]

/-- The digits of a number denote it. -/
theorem hexValue?_hex (n : Nat) : hexValue? 0 (Numeral.hex n) = some n := by
  induction n using Nat.strongRecOn with
  | ind n inductionHypothesis =>
    by_cases small : n < 16
    · have digit : hexValue? 0 ([] ++ [n.digitChar]) = some (0 * 16 + n) :=
        hexValue?_append_singleton rfl small
      rwa [Nat.zero_mul, Nat.zero_add, List.nil_append, ← Numeral.hex_of_lt small] at digit
    · have last : n % 16 < 16 := Nat.mod_lt n (by decide)
      rw [Numeral.hex_of_le (Nat.le_of_not_lt small),
        hexValue?_append_singleton (inductionHypothesis (n / 16) (by omega)) last,
        Nat.div_add_mod' n 16]

/-- **Each character is shown as a piece that stands for it**, whichever are hidden. -/
theorem spells_escape (hidden : Char → Bool) (quote c : Char) :
    Spells quote (escape hidden quote c) c := by
  unfold escape
  split_ifs with isNull isTab isFeed isReturn isShort isHidden
  · subst isNull
    exact .short (by simp [shortEscapes])
  · subst isTab
    exact .short (by simp [shortEscapes])
  · subst isFeed
    exact .short (by simp [shortEscapes])
  · subst isReturn
    exact .short (by simp [shortEscapes])
  · refine .short ?_
    rcases isShort with rfl | rfl <;> simp [shortEscapes]
  · exact .numbered Nat.toDigits_ne_nil (hexValue?_hex c.toNat)
  · obtain ⟨noBackslash, noQuote⟩ := not_or.1 isShort
    exact .bare noQuote noBackslash

/-- So a text is shown in pieces that stand for its characters. -/
theorem spells_map_escape (hidden : Char → Bool) (quote : Char) (text : List Char) :
    List.Forall₂ (Spells quote) (text.map (escape hidden quote)) text := by
  rw [List.forall₂_map_left_iff, List.forall₂_same]
  exact fun c _ => spells_escape hidden quote c

/-! ### Escapes are undone -/

/-- The digits of a number leave the reader with its value. -/
theorem readFrom?_counting (quote : Char) {start value : Nat} {digits : List Char}
    (denotes : hexValue? start digits = some value) (rest : List Char) :
    readFrom? quote (.counting start) (digits ++ rest) =
      readFrom? quote (.counting value) rest := by
  induction digits generalizing start with
  | nil => rw [List.nil_append, Option.some.inj denotes]
  | cons c digits inductionHypothesis =>
    rw [hexValue?_cons, Option.bind_eq_some_iff] at denotes
    obtain ⟨digit, isDigit, denotes⟩ := denotes
    have notClosing : c ≠ '\x7d' := by
      rintro rfl
      have noDigit : Json.hexDigit? '\x7d' = none := by decide
      rw [noDigit] at isDigit
      contradiction
    rw [List.cons_append, readFrom?, if_neg notClosing, isDigit, Option.bind_some,
      inductionHypothesis denotes]

/-- A piece is read as the character that it stands for. -/
theorem Spells.readFrom?_append {quote : Char} (isQuote : IsQuote quote) {piece : List Char}
    {c : Char} (spells : Spells quote piece c) (rest : List Char) :
    readFrom? quote .between (piece ++ rest) =
      (readFrom? quote .between rest).map fun (text, rest) => (c :: text, rest) := by
  have notBackslash : '\\' ≠ quote := by
    rcases isQuote with rfl | rfl <;> decide
  cases spells with
  | bare noQuote noBackslash => simp [readFrom?, noQuote, noBackslash]
  | @short letter c isShort =>
    have meant : letter ≠ 'u' ∧ shortEscape? letter = some c := by
      simp only [shortEscapes, List.mem_cons, Prod.mk.injEq, List.not_mem_nil, or_false] at isShort
      rcases isShort with ⟨rfl, rfl⟩ | ⟨rfl, rfl⟩ | ⟨rfl, rfl⟩ | ⟨rfl, rfl⟩ | ⟨rfl, rfl⟩ | ⟨rfl, rfl⟩
      case inr.inr.inr.inr.inr => rcases isQuote with rfl | rfl <;> decide
      all_goals decide
    simp [readFrom?, notBackslash, meant]
  | @numbered digits c _ denotes =>
    rw [List.cons_append, List.cons_append, List.cons_append, List.append_assoc,
      List.singleton_append, readFrom?, if_neg notBackslash, if_pos rfl, readFrom?, if_pos rfl,
      readFrom?, if_pos rfl, readFrom?_counting quote denotes, readFrom?, if_pos rfl,
      Char.ofNat_toNat]

/-- **Pieces are read as the text that they stand for**, whatever follows the closing quote. -/
theorem readFrom?_pieces {quote : Char} (isQuote : IsQuote quote) {pieces : List (List Char)}
    {text : List Char} (spelled : List.Forall₂ (Spells quote) pieces text) (rest : List Char) :
    readFrom? quote .between (pieces.flatten ++ quote :: rest) = some (text, rest) := by
  induction spelled with
  | nil => simp [readFrom?]
  | cons spells _ inductionHypothesis =>
    rw [List.flatten_cons, List.append_assoc, spells.readFrom?_append isQuote,
      inductionHypothesis]
    rfl

/-- **Reading undoes quoting**, whatever follows the closing quote. -/
theorem readFrom?_enclose (hidden : Char → Bool) {quote : Char} (isQuote : IsQuote quote)
    (text rest : List Char) :
    readFrom? quote .between (text.flatMap (escape hidden quote) ++ quote :: rest) =
      some (text, rest) := by
  rw [List.flatMap_def]
  exact readFrom?_pieces isQuote (spells_map_escape hidden quote text) rest

/-- **Quoted text delimits itself.** -/
theorem enclose_append_inj {hidden : Char → Bool} {quote quote' : Char}
    (isQuote : IsQuote quote) {text text' rest rest' : List Char}
    (same : enclose hidden quote text ++ rest = enclose hidden quote' text' ++ rest') :
    quote = quote' ∧ text = text' ∧ rest = rest' := by
  rw [enclose, enclose, List.cons_append, List.cons_append] at same
  obtain ⟨rfl, bodies⟩ := List.cons.inj same
  rw [List.append_assoc, List.append_assoc, List.singleton_append,
    List.singleton_append] at bodies
  have read := readFrom?_enclose hidden isQuote text rest
  rw [bodies, readFrom?_enclose hidden isQuote] at read
  obtain ⟨rfl, rfl⟩ := Prod.mk.inj (Option.some.inj read)
  exact ⟨rfl, rfl, rfl⟩

/-! ### Control characters -/

/-- The character is one of the control characters of seven bits. -/
def IsControl (c : Char) : Prop :=
  c.toNat < 32 ∨ c.toNat = 127

instance (c : Char) : Decidable (IsControl c) :=
  inferInstanceAs (Decidable (_ ∨ _))

/-- Control characters are hidden, so they never stand in quoted text as they are. -/
theorem isHidden_of_isControl {c : Char} (h : IsControl c) : isHidden c := by
  rcases h with low | isDelete
  · exact isHidden_of_control low
  · have same : c = '\x7f' := Char.toNat_inj.1 isDelete
    rw [same, isHidden, Text.isUnprintable_delete, Bool.or_true]

theorem not_isControl_digitChar : ∀ n < 16, ¬ IsControl n.digitChar := by
  decide

theorem not_isControl_of_mem_numbered {c shown : Char} (mem : shown ∈ numbered c) :
    ¬ IsControl shown := by
  simp only [numbered, List.mem_cons, List.mem_append, List.not_mem_nil, or_false] at mem
  rcases mem with rfl | rfl | rfl | isDigit | rfl
  · decide
  · decide
  · decide
  · obtain ⟨digit, small, rfl⟩ := Numeral.exists_digit_of_mem_hex isDigit
    exact not_isControl_digitChar digit small
  · decide

/-- A class that hides the control characters shows none of them. -/
theorem not_isControl_of_mem_escape {hidden : Char → Bool}
    (hides : ∀ c, IsControl c → hidden c) {quote : Char} (isQuote : IsQuote quote)
    {c shown : Char} (mem : shown ∈ escape hidden quote c) : ¬ IsControl shown := by
  have pair : ∀ {letter : Char}, ¬ IsControl letter → shown ∈ ['\\', letter] →
      ¬ IsControl shown := by
    intro letter letterShows mem
    simp only [List.mem_cons, List.not_mem_nil, or_false] at mem
    rcases mem with rfl | rfl
    · decide
    · exact letterShows
  unfold escape at mem
  split_ifs at mem with isNull isTab isFeed isReturn isShort isHidden
  · exact pair (by decide) mem
  · exact pair (by decide) mem
  · exact pair (by decide) mem
  · exact pair (by decide) mem
  · refine pair ?_ mem
    rcases isShort with rfl | rfl
    · decide
    · rcases isQuote with rfl | rfl <;> decide
  · exact not_isControl_of_mem_numbered mem
  · rw [List.mem_singleton] at mem
    subst mem
    exact fun isControl => isHidden (hides shown isControl)

/-- Quoted text holds no control character, and in particular stays on one line. -/
theorem not_isControl_of_mem_enclose {hidden : Char → Bool}
    (hides : ∀ c, IsControl c → hidden c) {quote : Char} (isQuote : IsQuote quote)
    {text : List Char} {shown : Char} (mem : shown ∈ enclose hidden quote text) :
    ¬ IsControl shown := by
  have quoteShows : ¬ IsControl quote := by
    rcases isQuote with rfl | rfl <;> decide
  simp only [enclose, List.mem_cons, List.mem_append, List.mem_flatMap, List.not_mem_nil,
    or_false] at mem
  rcases mem with rfl | ⟨c, _, inEscape⟩ | rfl
  · exact quoteShows
  · exact not_isControl_of_mem_escape hides isQuote inEscape
  · exact quoteShows

end Quoted

end BoundTree
