import BoundTree.Proofs.Quoted

/-!
# Sealed text

A line of a dump is a row of words with a blank between them, and a word may hold blanks
of its own: between the arguments of a type, between the names of locals, and anywhere
in quoted text.

**A sealed text shows where it ends.**  Outside of quoted text, its blanks only stand
after commas and its commas only before blanks.  So the first blank that is neither
quoted nor after a comma ends the word, and a row of sealed words can be taken apart
again.

## Main definitions

* `IsPlain` — a character that has no role of its own in a line
* `Sealed` — a text that shows where it ends

## Main statements

* `Sealed.append_blank_inj` — a sealed text and the blank after it can be told apart
* `Sealed.no_line_feed` — a sealed text stays on one line
* `intercalate_inj` — joined texts can be taken apart when every first separator can
* `words_inj` — a row of sealed words can be taken apart
-/

namespace BoundTree

/-- The character is not a blank, comma, quote or line feed. -/
def IsPlain (c : Char) : Prop :=
  c ∉ [' ', ',', '"', '\x27', '\n']

instance (c : Char) : Decidable (IsPlain c) :=
  inferInstanceAs (Decidable (_ ∉ _))

/-- A text whose blanks and commas outside of quoted parts come in pairs. -/
inductive Sealed : List Char → Prop
  | nil : Sealed []
  | plain {c : Char} {cs : List Char} : IsPlain c → Sealed cs → Sealed (c :: cs)
  | separator {cs : List Char} : Sealed cs → Sealed (',' :: ' ' :: cs)
  | quoted {quote : Char} {cs : List Char} (text : List Char) :
      Quoted.IsQuote quote → Sealed cs →
        Sealed (Quoted.enclose Quoted.isHidden quote text ++ cs)

namespace IsPlain

theorem ne_blank {c : Char} (plain : IsPlain c) : c ≠ ' ' := by
  rintro rfl
  exact absurd plain (by decide)

theorem ne_comma {c : Char} (plain : IsPlain c) : c ≠ ',' := by
  rintro rfl
  exact absurd plain (by decide)

theorem ne_line_feed {c : Char} (plain : IsPlain c) : c ≠ '\n' := by
  rintro rfl
  exact absurd plain (by decide)

theorem not_isQuote {c : Char} (plain : IsPlain c) : ¬ Quoted.IsQuote c := by
  rintro (rfl | rfl) <;> exact absurd plain (by decide)

/-- Letters and digits are plain. -/
theorem of_isAlphanum {c : Char} (h : c.isAlphanum) : IsPlain c := by
  intro mem
  simp only [List.mem_cons, List.not_mem_nil, or_false] at mem
  rcases mem with rfl | rfl | rfl | rfl | rfl <;> exact absurd h (by decide)

/-- Digits are plain. -/
theorem of_isDigit {c : Char} (h : c.isDigit) : IsPlain c :=
  of_isAlphanum (by simp [Char.isAlphanum, h])

end IsPlain

theorem Quoted.IsQuote.ne_blank {quote : Char} (isQuote : Quoted.IsQuote quote) :
    quote ≠ ' ' := by
  rcases isQuote with rfl | rfl <;> decide

theorem Quoted.IsQuote.ne_comma {quote : Char} (isQuote : Quoted.IsQuote quote) :
    quote ≠ ',' := by
  rcases isQuote with rfl | rfl <;> decide

namespace Sealed

/-! ### Putting sealed texts together -/

/-- Plain text is sealed. -/
theorem of_plain {cs : List Char} (plain : ∀ c ∈ cs, IsPlain c) : Sealed cs := by
  induction cs with
  | nil => exact .nil
  | cons c cs inductionHypothesis =>
    exact .plain (plain c List.mem_cons_self)
      (inductionHypothesis fun c mem => plain c (List.mem_cons_of_mem _ mem))

/-- Sealed texts that follow each other directly are sealed. -/
theorem append {cs cs' : List Char} (first : Sealed cs) (second : Sealed cs') :
    Sealed (cs ++ cs') := by
  induction first with
  | nil => exact second
  | plain isPlain _ inductionHypothesis => exact .plain isPlain inductionHypothesis
  | separator _ inductionHypothesis => exact .separator inductionHypothesis
  | quoted text isQuote _ inductionHypothesis =>
    rw [List.append_assoc]
    exact .quoted text isQuote inductionHypothesis

/-- A quoted text is sealed, whatever it quotes. -/
theorem enclose {quote : Char} (isQuote : Quoted.IsQuote quote) (text : List Char) :
    Sealed (Quoted.enclose Quoted.isHidden quote text) := by
  have alone := Sealed.quoted text isQuote .nil
  rwa [List.append_nil] at alone

/-- Sealed texts with a comma and a blank between them are sealed. -/
theorem intercalate {texts : List (List Char)} (allSealed : ∀ text ∈ texts, Sealed text) :
    Sealed ([',', ' '].intercalate texts) := by
  induction texts with
  | nil => exact .nil
  | cons text texts inductionHypothesis =>
    have first := allSealed text List.mem_cons_self
    have others := inductionHypothesis fun text mem => allSealed text (List.mem_cons_of_mem _ mem)
    cases texts with
    | nil => simpa using first
    | cons next texts =>
      rw [List.intercalate_cons_cons, List.append_assoc]
      exact first.append (.separator others)

/-! ### Taking sealed texts apart -/

/-- **A sealed text and the blank after it can be told apart** from all that follows. -/
theorem append_blank_inj {cs cs' rest rest' : List Char} (first : Sealed cs)
    (second : Sealed cs') (same : cs ++ ' ' :: rest = cs' ++ ' ' :: rest') :
    cs = cs' ∧ rest = rest' := by
  induction first generalizing cs' with
  -- the first character decides how the second text starts
  | nil =>
    cases second with
    | nil => exact ⟨rfl, (List.cons.inj same).2⟩
    | plain isPlain _ => exact absurd (List.cons.inj same).1.symm isPlain.ne_blank
    | separator _ => exact absurd (List.cons.inj same).1 (by decide)
    | quoted _ isQuote _ => exact absurd (List.cons.inj same).1.symm isQuote.ne_blank
  | plain isPlain _ inductionHypothesis =>
    cases second with
    | nil => exact absurd (List.cons.inj same).1 isPlain.ne_blank
    | plain _ others =>
      obtain ⟨rfl, tails⟩ := List.cons.inj same
      obtain ⟨rfl, rests⟩ := inductionHypothesis others tails
      exact ⟨rfl, rests⟩
    | separator _ => exact absurd (List.cons.inj same).1 isPlain.ne_comma
    | quoted _ isQuote _ =>
      obtain ⟨rfl, -⟩ := List.cons.inj same
      exact absurd isQuote isPlain.not_isQuote
  | separator _ inductionHypothesis =>
    cases second with
    | nil => exact absurd (List.cons.inj same).1 (by decide)
    | plain isPlain _ => exact absurd (List.cons.inj same).1.symm isPlain.ne_comma
    | separator others =>
      have tails := (List.cons.inj (List.cons.inj same).2).2
      obtain ⟨rfl, rests⟩ := inductionHypothesis others tails
      exact ⟨rfl, rests⟩
    | quoted _ isQuote _ => exact absurd (List.cons.inj same).1.symm isQuote.ne_comma
  | quoted text isQuote _ inductionHypothesis =>
    cases second with
    | nil => exact absurd (List.cons.inj same).1 isQuote.ne_blank
    | plain isPlain _ =>
      obtain ⟨rfl, -⟩ := List.cons.inj same
      exact absurd isQuote isPlain.not_isQuote
    | separator _ => exact absurd (List.cons.inj same).1 isQuote.ne_comma
    | quoted text' _ others =>
      rw [List.append_assoc, List.append_assoc] at same
      obtain ⟨rfl, rfl, tails⟩ := Quoted.enclose_append_inj isQuote same
      obtain ⟨rfl, rests⟩ := inductionHypothesis others tails
      exact ⟨rfl, rests⟩

/-- A sealed text stays on one line. -/
theorem no_line_feed {cs : List Char} (isSealed : Sealed cs) : '\n' ∉ cs := by
  induction isSealed with
  | nil => exact List.not_mem_nil
  | plain isPlain _ inductionHypothesis =>
    exact List.not_mem_cons_of_ne_of_not_mem isPlain.ne_line_feed.symm inductionHypothesis
  | separator _ inductionHypothesis => simp [inductionHypothesis]
  | quoted text isQuote _ inductionHypothesis =>
    rw [List.mem_append]
    rintro (inQuotes | after)
    · have shown := Quoted.not_isControl_of_mem_enclose
        (fun _ => Quoted.isHidden_of_isControl) isQuote inQuotes
      exact shown (by decide)
    · exact inductionHypothesis after

end Sealed

/-! ### Joined texts

Words are joined to lines, names to lists, and lines to a dump.  Texts of a class can be
taken out of such a whole when the first separator can be told apart from the text
before it. -/

section Joined

variable {stop : List Char} {IsText : List Char → Prop} {texts texts' : List (List Char)}

/-- A separator behind joined texts ends the last one, as the others are ended. -/
theorem intercalate_append_stop (someText : texts ≠ []) :
    stop.intercalate texts ++ stop = texts.flatMap fun text => text ++ stop := by
  induction texts with
  | nil => contradiction
  | cons text texts inductionHypothesis =>
    cases texts with
    | nil => simp
    | cons next texts =>
      rw [List.intercalate_cons_cons, List.append_assoc,
        inductionHypothesis (List.cons_ne_nil next texts), List.flatMap_cons (x := text)]

/-- **Joined texts can be taken apart** when every first separator can. -/
theorem intercalate_inj (notEmpty : stop ≠ [])
    (cut : ∀ {text text' rest rest'}, IsText text → IsText text' →
      text ++ (stop ++ rest) = text' ++ (stop ++ rest') → text = text' ∧ rest = rest')
    (someText : texts ≠ []) (someText' : texts' ≠ [])
    (areTexts : ∀ text ∈ texts, IsText text) (areTexts' : ∀ text ∈ texts', IsText text)
    (same : stop.intercalate texts = stop.intercalate texts') : texts = texts' := by
  have ended : stop.intercalate texts ++ stop = _ := intercalate_append_stop someText
  rw [same, intercalate_append_stop someText'] at ended
  clear same someText someText'
  induction texts generalizing texts' with
  | nil =>
    cases texts' with
    | nil => rfl
    | cons text' texts' => simp [notEmpty] at ended
  | cons text texts inductionHypothesis =>
    cases texts' with
    | nil => simp [notEmpty] at ended
    | cons text' texts' =>
      rw [List.flatMap_cons, List.flatMap_cons, List.append_assoc, List.append_assoc] at ended
      obtain ⟨first, others⟩ := List.forall_mem_cons.1 areTexts
      obtain ⟨first', others'⟩ := List.forall_mem_cons.1 areTexts'
      obtain ⟨rfl, tails⟩ := cut first' first ended
      rw [inductionHypothesis others others' tails]

/-- **Two texts of one class end at the same place** if neither is followed by a character
of the class. -/
theorem append_inj_of_forall {p : Char → Prop} {cs cs' rest rest' : List Char}
    (inside : ∀ c ∈ cs, p c) (inside' : ∀ c ∈ cs', p c) (stops : ∀ c ∈ rest.head?, ¬ p c)
    (stops' : ∀ c ∈ rest'.head?, ¬ p c) (same : cs ++ rest = cs' ++ rest') :
    cs = cs' ∧ rest = rest' := by
  induction cs generalizing cs' with
  | nil =>
    cases cs' with
    | nil => exact ⟨rfl, same⟩
    | cons c cs' =>
      rw [List.nil_append] at same
      exact absurd (inside' c List.mem_cons_self) (stops c (by rw [same]; rfl))
  | cons c cs inductionHypothesis =>
    cases cs' with
    | nil =>
      rw [List.nil_append] at same
      exact absurd (inside c List.mem_cons_self) (stops' c (by rw [← same]; rfl))
    | cons c' cs' =>
      obtain ⟨rfl, tails⟩ := List.cons.inj same
      obtain ⟨rfl, rests⟩ := inductionHypothesis
        (fun c mem => inside c (List.mem_cons_of_mem _ mem))
        (fun c mem => inside' c (List.mem_cons_of_mem _ mem)) tails
      exact ⟨rfl, rests⟩

/-- A text ends where a character stands first that it does not have. -/
theorem append_stop_inj {c : Char} {others text text' rest rest' : List Char}
    (absent : c ∉ text) (absent' : c ∉ text')
    (same : text ++ (c :: others ++ rest) = text' ++ (c :: others ++ rest')) :
    text = text' ∧ rest = rest' := by
  have stops : ∀ (rest : List Char), ∀ first ∈ (c :: others ++ rest).head?, ¬ first ≠ c :=
    fun _ _ isFirst => not_not_intro (Option.some.inj isFirst).symm
  obtain ⟨texts, tails⟩ := append_inj_of_forall (p := (· ≠ c))
    (fun _ mem isStop => absent (isStop ▸ mem)) (fun _ mem isStop => absent' (isStop ▸ mem))
    (stops rest) (stops rest') same
  exact ⟨texts, List.append_cancel_left tails⟩

end Joined

/-- Words with a blank between them can be taken apart. -/
theorem words_inj {words words' : List (List Char)} (someWord : words ≠ [])
    (someWord' : words' ≠ []) (allSealed : ∀ word ∈ words, Sealed word)
    (allSealed' : ∀ word ∈ words', Sealed word)
    (same : [' '].intercalate words = [' '].intercalate words') : words = words' :=
  intercalate_inj (List.cons_ne_nil _ _) Sealed.append_blank_inj someWord someWord'
    allSealed allSealed' same

/-- Names without commas can be taken out of a list of them. -/
theorem names_inj {names names' : List (List Char)} (someName : names ≠ [])
    (someName' : names' ≠ []) (noComma : ∀ name ∈ names, ',' ∉ name)
    (noComma' : ∀ name ∈ names', ',' ∉ name)
    (same : [',', ' '].intercalate names = [',', ' '].intercalate names') : names = names' :=
  intercalate_inj (List.cons_ne_nil _ _) append_stop_inj someName someName'
    noComma noComma' same

/-- Lines can be taken out of a text. -/
theorem lines_inj {lines lines' : List (List Char)} (someLine : lines ≠ [])
    (someLine' : lines' ≠ []) (noFeed : ∀ line ∈ lines, '\n' ∉ line)
    (noFeed' : ∀ line ∈ lines', '\n' ∉ line)
    (same : ['\n'].intercalate lines = ['\n'].intercalate lines') : lines = lines' :=
  intercalate_inj (List.cons_ne_nil _ _) append_stop_inj someLine someLine'
    noFeed noFeed' same

end BoundTree
