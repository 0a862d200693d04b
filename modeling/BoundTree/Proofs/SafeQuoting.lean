import BoundTree.Constant.Basic
import BoundTree.Proofs.Quoted

/-!
# Quoted text is safe to embed

A quote or a backslash stands in an escape only, so quoted text ends at its last quote and at no
other; and no control character is left, so the text stays on one line.  The escapes can be
undone, also where the text itself looks like an escape.

**The table of hidden characters does not matter.**  All this holds of every class of characters
that are shown by their number, as long as the control characters are among them.

## Main definitions

* `Quoted.decode?` — the text that a quoted text stands for
* `Quoted.IsSafelyQuoted` — what quoting has to achieve

## Main statements

* `Quoted.decode?_pieces` — pieces between quotes are decoded to the text that they stand for
* `Quoted.isSafelyQuoted_enclose` — quoting is safe for every class of hidden characters
* `Quoted.constants_quoted_safely` — so characters and strings are shown safely
-/

namespace BoundTree

namespace Quoted

/-- The piece begins with a backslash and goes on behind it. -/
def IsEscape (piece : List Char) : Prop :=
  ∃ letter rest, piece = '\\' :: letter :: rest

/-- The text that a quoted text stands for, if its first quote outside of an escape is its
last character. -/
def decode? (quote : Char) : List Char → Option (List Char)
  | [] => none
  | c :: cs =>
    if c = quote then
      (readFrom? quote .between cs).bind fun read => if read.2 = [] then some read.1 else none
    else
      none

/-- The text is shown between quotes, in pieces that stand for its characters.  A quote and a
backslash only occur in escapes, no control character is shown, and the text is decoded from
what is shown. -/
structure IsSafelyQuoted (quote : Char) (shown text : List Char) : Prop where
  pieces : ∃ pieces, shown = quote :: (pieces.flatten ++ [quote]) ∧
    List.Forall₂ (Spells quote) pieces text ∧
    ∀ piece ∈ pieces, ∀ c ∈ piece, c = quote ∨ c = '\\' → IsEscape piece
  visible : ∀ c ∈ shown, ¬ IsControl c
  decode?_eq : decode? quote shown = some text

/-- A piece with a quote or a backslash in it is an escape. -/
theorem Spells.isEscape {quote meant c : Char} {piece : List Char}
    (spells : Spells quote piece meant) (mem : c ∈ piece) (isSpecial : c = quote ∨ c = '\\') :
    IsEscape piece := by
  cases spells with
  | bare noQuote noBackslash =>
    obtain rfl := List.mem_singleton.1 mem
    rcases isSpecial with isQuote | isBackslash
    · exact absurd isQuote noQuote
    · exact absurd isBackslash noBackslash
  | short _ => exact ⟨_, _, rfl⟩
  | numbered _ _ => exact ⟨_, _, rfl⟩

/-- Pieces between quotes are decoded to the text that they stand for. -/
theorem decode?_pieces {quote : Char} (isQuote : IsQuote quote) {pieces : List (List Char)}
    {text : List Char} (spelled : List.Forall₂ (Spells quote) pieces text) :
    decode? quote (quote :: (pieces.flatten ++ [quote])) = some text := by
  rw [decode?, if_pos rfl, readFrom?_pieces isQuote spelled, Option.bind_some, if_pos rfl]

/-- **Quoting is safe** for every class of hidden characters that the control characters belong
to. -/
theorem isSafelyQuoted_enclose {hidden : Char → Bool} (hides : ∀ c, IsControl c → hidden c)
    {quote : Char} (isQuote : IsQuote quote) (text : List Char) :
    IsSafelyQuoted quote (enclose hidden quote text) text := by
  have spelled := spells_map_escape hidden quote text
  have shown : enclose hidden quote text =
      quote :: ((text.map (escape hidden quote)).flatten ++ [quote]) := by
    rw [enclose, List.flatMap_def]
  refine ⟨⟨text.map (escape hidden quote), shown, spelled, ?_⟩, ?_, ?_⟩
  · intro piece mem c inside isSpecial
    obtain ⟨meant, _, rfl⟩ := List.mem_map.1 mem
    exact (spells_escape hidden quote meant).isEscape inside isSpecial
  · intro c mem
    exact not_isControl_of_mem_enclose hides isQuote mem
  · rw [shown]
    exact decode?_pieces isQuote spelled

/-- **Characters and strings are shown safely**: strings in double quotes, characters in single
quotes, between which a double quote needs no escape.  The same holds of every text in either
sort of quotes, whichever characters are hidden besides the control characters. -/
theorem constants_quoted_safely :
    (∀ s : String, IsSafelyQuoted '"' (ConstantValue.string s).text.toList s.toList) ∧
    (∀ c : Char, IsSafelyQuoted '\x27' (ConstantValue.char c).text.toList [c]) ∧
    (ConstantValue.char '"').text.toList = ['\x27', '"', '\x27'] ∧
    ∀ hidden : Char → Bool, (∀ c, IsControl c → hidden c) →
      ∀ quote, IsQuote quote → ∀ text, IsSafelyQuoted quote (enclose hidden quote text) text := by
  have hides : ∀ c, IsControl c → isHidden c := fun _ => isHidden_of_isControl
  refine ⟨?_, ?_, ?_, ?_⟩
  · intro s
    rw [ConstantValue.text, String.toList_ofList]
    exact isSafelyQuoted_enclose hides (.inl rfl) s.toList
  · intro c
    rw [ConstantValue.text, String.toList_ofList]
    exact isSafelyQuoted_enclose hides (.inr rfl) [c]
  · have isShown : isHidden '"' = false := by decide +kernel
    rw [ConstantValue.text, String.toList_ofList]
    simp [ConstantValue.chars, character, enclose, escape, isShown]
  · intro hidden hides quote isQuote text
    exact isSafelyQuoted_enclose hides isQuote text

/-- A text that looks like the end of quoted text and like an escape. -/
def lookalike : List Char :=
  "\\\"\\u\x7b41\x7d\t\x7f".toList

/-- The class of the control characters alone. -/
def controlsOnly (c : Char) : Bool :=
  decide (IsControl c)

theorem constants_quoted_safely_lookalike :
    (∀ c, IsControl c → controlsOnly c) ∧ IsQuote '"' ∧
      IsSafelyQuoted '"' (enclose controlsOnly '"' lookalike) lookalike := by
  have hides : ∀ c, IsControl c → controlsOnly c := fun c => decide_eq_true
  exact ⟨hides, .inl rfl, constants_quoted_safely.2.2.2 controlsOnly hides '"' (.inl rfl) lookalike⟩

end Quoted

end BoundTree
