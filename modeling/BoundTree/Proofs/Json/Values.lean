import BoundTree.Proofs.Json.Tokens
import Mathlib.Data.List.TakeWhile

/-!
# Written values are read back

The reader of values counts its steps, and the written form of a value is read in at most
twice as many steps as it has characters.

**Strings and objects end by themselves**, so they are read back whatever follows.
Integers do not, and are read back inside of an object, where a comma or the closing
brace ends them.

**The text around a value does not matter** as far as it is white space, and anything
else behind a value that ends by itself makes the whole text unreadable.

## Main definitions

* `Json.ReadsBefore` — a text is read as a value when a given text follows
* `Json.Reads`, `Json.ReadsInside` — whatever follows, and inside of an object
* `Json.WrittenMember` — a member of an object with its written value

## Main statements

* `Json.reads_object` — an object is read back when its values are inside of it
* `Json.Reads.read?_eq` — reading a whole text
-/

namespace BoundTree

namespace Json

/-- The text is read as a value when `rest` follows. -/
def ReadsBefore (rest text : List Char) (json : Json) : Prop :=
  ∀ steps, 2 * text.length ≤ steps → readValue steps (text ++ rest) = some (json, rest)

/-- The text is read as a value, whatever follows. -/
def Reads (text : List Char) (json : Json) : Prop :=
  ∀ rest, ReadsBefore rest text json

/-- The text is read as a value inside of an object. -/
def ReadsInside (text : List Char) (json : Json) : Prop :=
  ∀ c rest, c = ',' ∨ c = '\x7d' → ReadsBefore (c :: rest) text json

/-- What is read anywhere is read in front of a separator. -/
theorem Reads.inside {text : List Char} {json : Json} (reads : Reads text json) :
    ReadsInside text json :=
  fun c rest _ => reads (c :: rest)

/-! ### White space -/

theorem skipSpace_cons {c : Char} (notSpace : isSpace c = false) (cs : List Char) :
    skipSpace (c :: cs) = c :: cs := by
  simp [skipSpace, notSpace]

/-- White space before a text is skipped. -/
theorem skipSpace_append {blank : List Char} (allSpace : ∀ c ∈ blank, isSpace c = true)
    (cs : List Char) : skipSpace (blank ++ cs) = skipSpace cs :=
  List.dropWhile_append_of_pos allSpace

/-- Nothing is left exactly if there was white space only. -/
theorem skipSpace_eq_nil_iff {cs : List Char} :
    skipSpace cs = [] ↔ ∀ c ∈ cs, isSpace c = true :=
  List.dropWhile_eq_nil_iff

/-- A value is found behind white space. -/
theorem readValue_append {blank : List Char} (allSpace : ∀ c ∈ blank, isSpace c = true)
    (steps : Nat) (cs : List Char) : readValue steps (blank ++ cs) = readValue steps cs := by
  cases steps with
  | zero => rfl
  | succ steps => rw [readValue, readValue, skipSpace_append allSpace]

/-! ### Values without parts -/

/-- A text with a character allows at least one step. -/
theorem exists_step {c : Char} {cs : List Char} {steps : Nat}
    (enough : 2 * (c :: cs).length ≤ steps) :
    ∃ others, steps = others + 1 ∧ 2 * cs.length + 1 ≤ others := by
  rw [List.length_cons] at enough
  exact ⟨steps - 1, by omega, by omega⟩

theorem reads_true : Reads ['t', 'r', 'u', 'e'] (.boolean true) := by
  intro rest steps enough
  obtain ⟨steps, rfl, -⟩ := exists_step enough
  rfl

theorem reads_false : Reads ['f', 'a', 'l', 's', 'e'] (.boolean false) := by
  intro rest steps enough
  obtain ⟨steps, rfl, -⟩ := exists_step enough
  rfl

/-- A written string is read as its characters. -/
theorem reads_string (cs : List Char) :
    Reads (JsonText.string cs) (.string (some (String.ofList cs))) := by
  intro rest steps enough
  obtain ⟨steps, rfl, -⟩ := exists_step enough
  have body := readString_escape cs rest
  rw [JsonText.string, List.cons_append, List.append_assoc, List.singleton_append, readValue,
    skipSpace_cons (by decide)]
  show (readString _).map _ = _
  rw [body]
  rfl

/-- A text that begins like a number is read as one. -/
theorem readValue_number {c : Char} (begins : c = '-' ∨ c.isDigit = true) (steps : Nat)
    (cs : List Char) :
    readValue (steps + 1) (c :: cs) =
      (readNumber (c :: cs)).map fun (token, rest) => (.number token, rest) := by
  have notSpace : isSpace c = false := by
    rw [Bool.eq_false_iff]
    intro space
    simp only [isSpace, Bool.or_eq_true, beq_iff_eq, or_assoc] at space
    rcases space with rfl | rfl | rfl | rfl <;> exact absurd begins (by decide)
  rw [readValue, skipSpace_cons notSpace]
  -- no other form of a value begins like a number
  split
  all_goals first
    | rfl
    | next starts =>
      obtain ⟨rfl, -⟩ := List.cons.inj starts
      exact absurd begins (by decide)

/-- A comma or a closing brace ends a number. -/
theorem endsNumber_cons {c : Char} (closes : c = ',' ∨ c = '\x7d') (rest : List Char) :
    EndsNumber (c :: rest) := by
  intro first isFirst
  obtain rfl := Option.some.inj isFirst
  rcases closes with rfl | rfl <;> decide

/-- A numeral is read as an integer where something ends it. -/
theorem readsInside_ofInt (n : Int) :
    ReadsInside (Numeral.ofInt n) (.number (integerToken n)) := by
  intro c rest closes steps enough
  have begins : ∃ first others, Numeral.ofInt n = first :: others ∧
      (first = '-' ∨ first.isDigit = true) := by
    cases n with
    | ofNat n =>
      obtain ⟨first, others, shown, isDigit⟩ := exists_digit_cons n
      exact ⟨first, others, shown, Or.inr isDigit⟩
    | negSucc n => exact ⟨'-', Numeral.ofNat (n + 1), rfl, Or.inl rfl⟩
  obtain ⟨first, others, shown, begin⟩ := begins
  have read := readNumber_ofInt n (endsNumber_cons closes rest)
  rw [shown] at enough read ⊢
  obtain ⟨steps, rfl, -⟩ := exists_step enough
  rw [List.cons_append] at read ⊢
  rw [readValue_number begin, read]
  rfl

/-! ### Objects -/

/-- A member of an object, with its value and how the value is written. -/
structure WrittenMember where
  key : String
  text : List Char
  json : Json

namespace WrittenMember

/-- The member as it is written. -/
def chars (m : WrittenMember) : List Char :=
  JsonText.member m.key m.text

/-- The member as it is read. -/
def parsed (m : WrittenMember) : StringToken × Json :=
  (some m.key, m.json)

/-- The value of the member is read back where it stands. -/
def IsReadBack (m : WrittenMember) : Prop :=
  ReadsInside m.text m.json

theorem chars_eq (m : WrittenMember) :
    m.chars = '"' :: (m.key.toList.flatMap JsonText.escape ++ '"' :: ':' :: m.text) := by
  simp [chars, JsonText.member, JsonText.string]

end WrittenMember

/-- A member is read up to the comma or the closing brace behind its value. -/
theorem readMembers_member {m : WrittenMember} (readBack : m.IsReadBack) {c : Char}
    (closes : c = ',' ∨ c = '\x7d') (rest : List Char) {steps : Nat}
    (enough : 2 * m.chars.length ≤ steps) :
    readMembers (steps + 1) (m.chars ++ c :: rest) =
      if c = ',' then (readMembers steps rest).map fun (members, rest) => (m.parsed :: members, rest)
      else some ([m.parsed], rest) := by
  have value : readValue steps (m.text ++ c :: rest) = some (m.json, c :: rest) := by
    refine readBack c rest closes steps ?_
    rw [m.chars_eq] at enough
    simp at enough
    omega
  have key := readString_escape m.key.toList (':' :: (m.text ++ c :: rest))
  rw [String.ofList_toList] at key
  rw [m.chars_eq, readMembers, List.cons_append, skipSpace_cons (by decide), List.append_assoc]
  simp only [List.cons_append, key, Option.bind_eq_bind, Option.bind_some,
    skipSpace_cons (by decide : isSpace ':' = false), value]
  rcases closes with rfl | rfl
  · rw [if_pos rfl, skipSpace_cons (by decide)]
    show (readMembers steps rest).bind _ = _
    cases readMembers steps rest <;> rfl
  · rw [if_neg (by decide), skipSpace_cons (by decide)]
    rfl

/-- The members of an object as they are written, without its braces. -/
def joined (members : List WrittenMember) : List Char :=
  [','].intercalate (members.map (·.chars))

theorem joined_cons_cons (m next : WrittenMember) (members : List WrittenMember) :
    joined (m :: next :: members) = m.chars ++ ',' :: joined (next :: members) := by
  simp [joined, List.intercalate_cons_cons]

/-- The members of an object are read up to its closing brace. -/
theorem readMembers_joined {m : WrittenMember} {members : List WrittenMember}
    (readBack : ∀ m' ∈ m :: members, m'.IsReadBack) (rest : List Char) {steps : Nat}
    (enough : 2 * (joined (m :: members)).length < steps) :
    readMembers steps (joined (m :: members) ++ '\x7d' :: rest) =
      some ((m :: members).map (·.parsed), rest) := by
  -- every member takes one step and has at least one character
  induction members generalizing m steps with
  | nil =>
    have alone : joined [m] = m.chars := List.intercalate_singleton
    obtain ⟨others, rfl⟩ : ∃ others, steps = others + 1 := ⟨steps - 1, by omega⟩
    rw [alone] at enough ⊢
    rw [readMembers_member (readBack m List.mem_cons_self) (Or.inr rfl) rest (by omega),
      if_neg (by decide)]
    rfl
  | cons next members inductionHypothesis =>
    obtain ⟨first, later⟩ := List.forall_mem_cons.1 readBack
    obtain ⟨others, rfl⟩ : ∃ others, steps = others + 1 := ⟨steps - 1, by omega⟩
    rw [joined_cons_cons] at enough ⊢
    rw [List.length_append, List.length_cons] at enough
    rw [List.append_assoc, List.cons_append, readMembers_member first (Or.inl rfl) _ (by omega),
      if_pos rfl, inductionHypothesis later (by omega)]
    rfl

/-- Joined members begin with the quote of the first name. -/
theorem exists_quote_joined (m : WrittenMember) (members : List WrittenMember) :
    ∃ more, joined (m :: members) = '"' :: more := by
  cases members with
  | nil => exact ⟨_, List.intercalate_singleton.trans m.chars_eq⟩
  | cons next members =>
    rw [joined_cons_cons, m.chars_eq]
    exact ⟨_, rfl⟩

/-- **An object is read back** when its values are read back inside of it. -/
theorem reads_object {m : WrittenMember} {members : List WrittenMember}
    (readBack : ∀ m' ∈ m :: members, m'.IsReadBack) :
    Reads (JsonText.object ((m :: members).map fun m => (m.key, m.text)))
      (.object ((m :: members).map (·.parsed))) := by
  intro rest steps enough
  have shown : JsonText.object ((m :: members).map fun m => (m.key, m.text)) =
      '\x7b' :: (joined (m :: members) ++ ['\x7d']) := by
    rw [JsonText.object, List.map_map]
    rfl
  obtain ⟨more, starts⟩ := exists_quote_joined m members
  rw [shown] at enough ⊢
  obtain ⟨others, rfl, bound⟩ := exists_step enough
  rw [List.length_append, List.length_singleton] at bound
  have inside : readMembers others (joined (m :: members) ++ '\x7d' :: rest) = _ :=
    readMembers_joined readBack rest (by omega)
  rw [starts, List.cons_append] at inside
  rw [List.cons_append, List.append_assoc, List.singleton_append, starts, List.cons_append]
  -- the first member begins with a quote, so the object is not empty
  have beginsObject : isSpace '\x7b' = false := by decide
  have beginsMember : isSpace '"' = false := by decide
  simp [readValue, skipSpace_cons beginsObject, skipSpace_cons beginsMember, inside]

/-! ### Whole texts -/

/-- **Reading a whole text.**  White space around a value does not matter, and there must
be nothing else. -/
theorem Reads.read?_eq {text : List Char} {json : Json} (reads : Reads text json)
    {before : List Char} (allSpace : ∀ c ∈ before, isSpace c = true) (after : List Char) :
    read? (before ++ text ++ after) = if skipSpace after = [] then some json else none := by
  have value : readValue (2 * (before ++ text ++ after).length + 2) (before ++ text ++ after) =
      some (json, after) := by
    rw [List.append_assoc, readValue_append allSpace]
    refine reads after _ ?_
    rw [List.length_append, List.length_append]
    omega
  rw [read?, value, Option.bind_eq_bind, Option.bind_some]
  dsimp only
  cases skipSpace after with
  | nil =>
    rw [if_pos rfl]
    rfl
  | cons c cs => rw [if_neg (List.cons_ne_nil c cs)]

end Json

end BoundTree
