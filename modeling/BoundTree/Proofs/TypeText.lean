import BoundTree.Proofs.Dump.Sealed
import BoundTree.Ty

/-!
# The text of a type tells the type

A type is written as a word, an argument list and a row of question marks.  The word is the
name of a user type or the spelling of a built-in one; the type that could not be resolved
has no word, and one question mark of its own.

**The marks divide the text.**  A word holds none of the characters that the argument list
and the question marks begin with, so it ends where the first of them stands.  An argument
ends at a comma or at a closing bracket, which no type goes on with.  So the three parts can
be told apart, whatever follows the type, and they determine it: a user type is not named
like a built-in one.

## Main definitions

* `Ty.IsOwnName` — a name that is neither divided nor taken
* `Ty.IsWellNamed` — a type with such names and with the two floating-point widths
* `Ty.word`, `Ty.arguments`, `Ty.marks` — the three parts of a written type
* `Ty.IsDelimited` — a type that can be told apart from what follows it

## Main statements

* `Ty.chars_eq` — the parts make up the written form
* `Ty.eq_of_parts_eq` — the parts determine the type
* `Ty.isDelimited` — a well-named type can be told apart from what follows it
* `Ty.text_unambiguous` — well-named types with one text are equal
-/

namespace BoundTree

namespace Ty

/-! ### Well-named types -/

/-- The character divides the parts of written types. -/
def IsMark (c : Char) : Prop :=
  c ∈ ['<', '>', ',', '?', ' ']

instance (c : Char) : Decidable (IsMark c) :=
  inferInstanceAs (Decidable (_ ∈ _))

/-- The text has no mark in it. -/
def HasNoMark (cs : List Char) : Prop :=
  ∀ c ∈ cs, ¬ IsMark c

instance (cs : List Char) : Decidable (HasNoMark cs) :=
  List.decidableBAll (fun c => ¬ IsMark c) cs

/-- The text is a row of digits, one at least. -/
def IsRowOfDigits (cs : List Char) : Prop :=
  cs ≠ [] ∧ cs.all Char.isDigit

instance (cs : List Char) : Decidable (IsRowOfDigits cs) :=
  inferInstanceAs (Decidable (_ ∧ _))

/-- The types that are spelled as one word. -/
def plainTypes : List Ty :=
  [float 32, float 64, decimal, boolean, char, string, object]

/-- The text is spelled like a built-in type: an integral one of any width, or one that is
spelled as one word. -/
def IsBuiltInSpelling (cs : List Char) : Prop :=
  (∃ digits, IsRowOfDigits digits ∧
    (cs = "Int".toList ++ digits ∨ cs = "UInt".toList ++ digits)) ∨
    cs ∈ ["Single".toList, "Double".toList, "Decimal".toList, "Boolean".toList, "Char".toList,
      "String".toList, "Object".toList]

/-- The name is not empty, has no mark in it and is not spelled like a built-in type. -/
structure IsOwnName (name : String) : Prop where
  ne_nil : name.toList ≠ []
  no_mark : HasNoMark name.toList
  not_builtIn : ¬ IsBuiltInSpelling name.toList

/-- The type has names of its own at any depth, and floating-point types in it have 32 or
64 bits. -/
inductive IsWellNamed : Ty → Prop
  | integral (bits : UInt8) (signed : Bool) : IsWellNamed (integral bits signed)
  | single : IsWellNamed (float 32)
  | double : IsWellNamed (float 64)
  | decimal : IsWellNamed decimal
  | boolean : IsWellNamed boolean
  | char : IsWellNamed char
  | string : IsWellNamed string
  | object : IsWellNamed object
  | named {name : String} {arguments : List Ty} :
      IsOwnName name → (∀ t ∈ arguments, IsWellNamed t) → IsWellNamed (named name arguments)
  | nullable {underlying : Ty} : IsWellNamed underlying → IsWellNamed (nullable underlying)
  | error : IsWellNamed error

/-! ### The parts of a written type -/

/-- The word that a type begins with, none for a type that could not be resolved. -/
def word : Ty → List Char
  | named name _ => name.toList
  | nullable underlying => word underlying
  | error => []
  | t => t.chars

/-- The type arguments that are written behind the word. -/
def arguments : Ty → List Ty
  | named _ arguments => arguments
  | nullable underlying => arguments underlying
  | _ => []

/-- The number of question marks at the end. -/
def marks : Ty → Nat
  | nullable underlying => marks underlying + 1
  | error => 1
  | _ => 0

/-- **A type is written as its three parts**, one behind the other. -/
theorem chars_eq : (t : Ty) →
    t.chars = t.word ++ (argumentChars t.arguments ++ List.replicate t.marks '?')
  | nullable underlying => by
    show chars underlying ++ ['?'] = _
    rw [chars_eq underlying, List.append_assoc, List.append_assoc]
    show _ = word underlying ++
      (argumentChars (arguments underlying) ++ List.replicate (marks underlying + 1) '?')
    rw [List.replicate_succ']
  | named name arguments => by
    show name.toList ++ argumentChars arguments = name.toList ++ (argumentChars arguments ++ [])
    rw [List.append_nil]
  | error => rfl
  | integral _ _ => (List.append_nil _).symm
  | float _ => (List.append_nil _).symm
  | decimal => (List.append_nil _).symm
  | boolean => (List.append_nil _).symm
  | char => (List.append_nil _).symm
  | string => (List.append_nil _).symm
  | object => (List.append_nil _).symm

theorem sizeOf_lt_of_mem_arguments {t a : Ty} (mem : a ∈ t.arguments) :
    sizeOf a < sizeOf t := by
  induction t using arguments.induct with
  | case1 name arguments =>
    have smaller : sizeOf a < sizeOf arguments := List.sizeOf_lt_of_mem mem
    simp only [named.sizeOf_spec]
    omega
  | case2 underlying inductionHypothesis =>
    have smaller := inductionHypothesis mem
    simp only [nullable.sizeOf_spec]
    omega
  | case3 t noNamed noNullable =>
    cases t <;> simp [arguments] at mem noNamed noNullable

/-- Induction that goes from the arguments of a type to the type. -/
theorem induction_on_arguments {motive : Ty → Prop}
    (step : ∀ t, (∀ a ∈ t.arguments, motive a) → motive t) (t : Ty) : motive t :=
  step t fun a _ => induction_on_arguments step a
termination_by sizeOf t
decreasing_by exact sizeOf_lt_of_mem_arguments ‹_›

/-! ### The word of a type -/

/-- The integral type with a width that is written in digits. -/
def integral? (signed : Bool) (digits : List Char) : Option Ty :=
  if IsRowOfDigits digits then
    some (integral (UInt8.ofNat (Numeral.value digits)) signed)
  else
    none

/-- The built-in type with a given spelling. -/
def builtIn? : List Char → Option Ty
  | 'I' :: 'n' :: 't' :: digits => integral? true digits
  | 'U' :: 'I' :: 'n' :: 't' :: digits => integral? false digits
  | cs => plainTypes.find? fun t => t.chars == cs

/-- The type with a given word and given arguments that ends without a question mark. -/
def ofWord (word : List Char) (arguments : List Ty) : Ty :=
  (builtIn? word).getD (named (String.ofList word) arguments)

theorem integral?_ofNat (signed : Bool) (bits : UInt8) :
    integral? signed (Numeral.ofNat bits.toNat) = some (integral bits signed) := by
  have digits : IsRowOfDigits (Numeral.ofNat bits.toNat) :=
    ⟨Numeral.ofNat_ne_nil _, List.all_eq_true.2 fun _ mem => Numeral.isDigit_of_mem_ofNat mem⟩
  rw [integral?, if_pos digits, Numeral.value_ofNat, UInt8.ofNat_toNat]

theorem isBuiltInSpelling_of_builtIn? {cs : List Char} {t : Ty}
    (isBuiltIn : builtIn? cs = some t) : IsBuiltInSpelling cs := by
  have ofDigits : ∀ {signed : Bool} {digits : List Char}, integral? signed digits = some t →
      IsRowOfDigits digits := by
    intro signed digits isIntegral
    unfold integral? at isIntegral
    split at isIntegral
    · assumption
    · contradiction
  unfold builtIn? at isBuiltIn
  split at isBuiltIn
  · exact .inl ⟨_, ofDigits isBuiltIn, .inl rfl⟩
  · exact .inl ⟨_, ofDigits isBuiltIn, .inr rfl⟩
  · have found := List.find?_some isBuiltIn
    have isPlain : t.chars ∈ plainTypes.map chars :=
      List.mem_map_of_mem (List.mem_of_find?_eq_some isBuiltIn)
    rw [eq_of_beq found] at isPlain
    exact .inr isPlain

/-- The spellings of built-in types are those that a built-in type is found for. -/
theorem isSome_builtIn?_iff {cs : List Char} : (builtIn? cs).isSome ↔ IsBuiltInSpelling cs := by
  constructor
  · intro isSome
    obtain ⟨t, isBuiltIn⟩ := Option.isSome_iff_exists.1 isSome
    exact isBuiltInSpelling_of_builtIn? isBuiltIn
  · rintro (⟨digits, areDigits, rfl | rfl⟩ | isWord)
    · show (integral? true digits).isSome
      rw [integral?, if_pos areDigits, Option.isSome_some]
    · show (integral? false digits).isSome
      rw [integral?, if_pos areDigits, Option.isSome_some]
    · have found : ∀ cs ∈ plainTypes.map chars, (builtIn? cs).isSome = true := by decide
      exact found cs isWord

instance (cs : List Char) : Decidable (IsBuiltInSpelling cs) :=
  decidable_of_iff _ isSome_builtIn?_iff

theorem isOwnName_iff {name : String} :
    name.toList ≠ [] ∧ HasNoMark name.toList ∧ ¬ IsBuiltInSpelling name.toList ↔
      IsOwnName name :=
  ⟨fun own => ⟨own.1, own.2.1, own.2.2⟩, fun own => ⟨own.ne_nil, own.no_mark, own.not_builtIn⟩⟩

instance (name : String) : Decidable (IsOwnName name) :=
  decidable_of_iff _ isOwnName_iff

theorem IsOwnName.builtIn?_eq_none {name : String} (own : IsOwnName name) :
    builtIn? name.toList = none := by
  rw [Option.eq_none_iff_forall_ne_some]
  intro t isBuiltIn
  exact own.not_builtIn (isBuiltInSpelling_of_builtIn? isBuiltIn)

/-- A well-named type without a question mark is determined by its word and arguments. -/
theorem ofWord_word {t : Ty} (wellNamed : t.IsWellNamed) (noMark : t.marks = 0) :
    ofWord t.word t.arguments = t := by
  cases wellNamed with
  | integral bits signed =>
    cases signed with
    | true =>
      show (integral? true (Numeral.ofNat bits.toNat)).getD _ = _
      rw [integral?_ofNat, Option.getD_some]
    | false =>
      show (integral? false (Numeral.ofNat bits.toNat)).getD _ = _
      rw [integral?_ofNat, Option.getD_some]
  | @named name arguments own _ =>
    show (builtIn? name.toList).getD (named (String.ofList name.toList) arguments) = _
    rw [own.builtIn?_eq_none, Option.getD_none, String.ofList_toList]
  | nullable => contradiction
  | error => contradiction
  | _ => rfl

theorem word_ne_nil {t : Ty} (wellNamed : t.IsWellNamed) (noMark : t.marks = 0) :
    t.word ≠ [] := by
  cases wellNamed with
  | integral bits signed => cases signed <;> exact List.cons_ne_nil _ _
  | named own _ => exact own.ne_nil
  | nullable => contradiction
  | error => contradiction
  | _ => exact List.cons_ne_nil _ _

/-- A question mark at the end is that of a nullable type, or of the type that could not be
resolved. -/
theorem marks_eq_succ {t : Ty} {n : Nat} (wellNamed : t.IsWellNamed) (marked : t.marks = n + 1) :
    t = error ∧ n = 0 ∨ ∃ underlying : Ty, underlying.IsWellNamed ∧ t = nullable underlying ∧
      underlying.marks = n := by
  cases wellNamed with
  | nullable wellNamed => exact .inr ⟨_, wellNamed, rfl, Nat.succ.inj marked⟩
  | error => exact .inl ⟨rfl, (Nat.succ.inj marked).symm⟩
  | _ => contradiction

/-- **The parts determine the type**, as no user type is named like a built-in one. -/
theorem eq_of_parts_eq {t u : Ty} (wellNamed : t.IsWellNamed) (wellNamed' : u.IsWellNamed)
    (words : t.word = u.word) (lists : t.arguments = u.arguments) (ends : t.marks = u.marks) :
    t = u := by
  induction counted : u.marks generalizing t u with
  | zero =>
    rw [counted] at ends
    rw [← ofWord_word wellNamed ends, ← ofWord_word wellNamed' counted, words, lists]
  | succ n inductionHypothesis =>
    rw [counted] at ends
    -- only the unresolved type has a question mark of its own, and it has no word
    rcases marks_eq_succ wellNamed ends with ⟨rfl, rfl⟩ | ⟨underlying, inner, rfl, count⟩
    · rcases marks_eq_succ wellNamed' counted with ⟨rfl, _⟩ | ⟨underlying', inner', rfl, count'⟩
      · rfl
      · have someWord : underlying'.word ≠ [] := word_ne_nil inner' count'
        exact absurd words.symm someWord
    · rcases marks_eq_succ wellNamed' counted with ⟨rfl, rfl⟩ | ⟨underlying', inner', rfl, count'⟩
      · have someWord : underlying.word ≠ [] := word_ne_nil inner count
        exact absurd words someWord
      · rw [inductionHypothesis inner inner' words lists (count.trans count'.symm) count']

/-! ### Telling the parts apart -/

/-- The text behind a type begins with a comma or a closing bracket, unless it is empty. -/
def EndsType (rest : List Char) : Prop :=
  ∀ c ∈ rest.head?, c = ',' ∨ c = '>'

/-- The type can be told apart from every text behind it. -/
def IsDelimited (t : Ty) : Prop :=
  ∀ {u : Ty} {rest rest' : List Char}, u.IsWellNamed → EndsType rest → EndsType rest' →
    t.chars ++ rest = u.chars ++ rest' → t = u ∧ rest = rest'

/-- The word of a well-named type has no mark, so it ends before the first one. -/
theorem hasNoMark_word {t : Ty} (wellNamed : t.IsWellNamed) : HasNoMark t.word := by
  induction wellNamed with
  | integral bits signed =>
    have digits : HasNoMark (Numeral.ofNat bits.toNat) := by
      intro c mem isMark
      have isDigit := Numeral.isDigit_of_mem_ofNat mem
      simp only [IsMark, List.mem_cons, List.not_mem_nil, or_false] at isMark
      rcases isMark with rfl | rfl | rfl | rfl | rfl <;> exact absurd isDigit (by decide)
    cases signed with
    | true => exact List.forall_mem_append.2 ⟨(by decide : HasNoMark ['I', 'n', 't']), digits⟩
    | false =>
      exact List.forall_mem_append.2 ⟨(by decide : HasNoMark ['U', 'I', 'n', 't']), digits⟩
  | named own _ _ => exact own.no_mark
  | nullable _ inductionHypothesis => exact inductionHypothesis
  | error => exact List.forall_mem_nil _
  | _ => decide

/-- Behind an argument stands a separator or the bracket that closes the list. -/
theorem moreChars_head (ts : List Ty) (rest : List Char) :
    EndsType (moreChars ts ++ rest) := by
  intro c first
  cases ts with
  | nil => exact .inr (Option.some.inj first).symm
  | cons t ts => exact .inl (Option.some.inj first).symm

/-- Question marks end where none follows. -/
theorem marks_append_inj {n n' : Nat} {rest rest' : List Char} (ends : EndsType rest)
    (ends' : EndsType rest')
    (same : List.replicate n '?' ++ rest = List.replicate n' '?' ++ rest') :
    n = n' ∧ rest = rest' := by
  have noMark : ∀ {rest : List Char}, EndsType rest → ∀ c ∈ rest.head?, c ≠ '?' := by
    rintro rest ends c first rfl
    rcases ends _ first with isComma | isBracket <;> contradiction
  obtain ⟨marks, rests⟩ := append_inj_of_forall (p := (· = '?'))
    (fun _ mem => List.eq_of_mem_replicate mem) (fun _ mem => List.eq_of_mem_replicate mem)
    (noMark ends) (noMark ends') same
  have counts := congrArg List.length marks
  rw [List.length_replicate, List.length_replicate] at counts
  exact ⟨counts, rests⟩

/-- The further arguments of a list can be told apart, as each of them can. -/
theorem moreChars_append_inj {ts us : List Ty} {rest rest' : List Char}
    (delimited : ∀ t ∈ ts, t.IsDelimited) (wellNamed' : ∀ u ∈ us, u.IsWellNamed)
    (same : moreChars ts ++ rest = moreChars us ++ rest') : ts = us ∧ rest = rest' := by
  induction ts generalizing us with
  | nil =>
    cases us with
    | nil => exact ⟨rfl, (List.cons.inj same).2⟩
    | cons u us => exact absurd (List.cons.inj same).1 (by decide)
  | cons t ts inductionHypothesis =>
    cases us with
    | nil => exact absurd (List.cons.inj same).1 (by decide)
    | cons u us =>
      obtain ⟨first, others⟩ := List.forall_mem_cons.1 delimited
      obtain ⟨first', others'⟩ := List.forall_mem_cons.1 wellNamed'
      have behind : t.chars ++ (moreChars ts ++ rest) = u.chars ++ (moreChars us ++ rest') := by
        rw [← List.append_assoc, ← List.append_assoc]
        exact (List.cons.inj (List.cons.inj same).2).2
      obtain ⟨rfl, tails⟩ := first first' (moreChars_head ts rest) (moreChars_head us rest') behind
      obtain ⟨rfl, rests⟩ := inductionHypothesis others others' tails
      exact ⟨rfl, rests⟩

/-- An argument list can be told apart from a text that does not begin with a bracket. -/
theorem argumentChars_append_inj {ts us : List Ty} {rest rest' : List Char}
    (delimited : ∀ t ∈ ts, t.IsDelimited) (wellNamed' : ∀ u ∈ us, u.IsWellNamed)
    (closed : ∀ c ∈ rest.head?, c ≠ '<') (closed' : ∀ c ∈ rest'.head?, c ≠ '<')
    (same : argumentChars ts ++ rest = argumentChars us ++ rest') : ts = us ∧ rest = rest' := by
  cases ts with
  | nil =>
    cases us with
    | nil => exact ⟨rfl, same⟩
    | cons u us =>
      have opened : '<' ∈ rest.head? := by
        rw [show rest = argumentChars (u :: us) ++ rest' from same]
        rfl
      exact absurd rfl (closed _ opened)
  | cons t ts =>
    cases us with
    | nil =>
      have opened : '<' ∈ rest'.head? := by
        rw [show rest' = argumentChars (t :: ts) ++ rest from same.symm]
        rfl
      exact absurd rfl (closed' _ opened)
    | cons u us =>
      -- behind the bracket the list goes on as behind a comma
      have further : moreChars (t :: ts) ++ rest = moreChars (u :: us) ++ rest' :=
        congrArg (fun cs => ',' :: ' ' :: cs) (List.cons.inj same).2
      exact moreChars_append_inj delimited wellNamed' further

/-- Behind the arguments stands a question mark, or what follows the type. -/
theorem marks_head {n : Nat} {rest : List Char} (ends : EndsType rest) :
    ∀ c ∈ (List.replicate n '?' ++ rest).head?, c = '?' ∨ c = ',' ∨ c = '>' := by
  intro c first
  cases n with
  | zero => exact .inr (ends c first)
  | succ n => exact .inl (Option.some.inj first).symm

/-- Behind the word stands a mark, unless nothing does. -/
theorem isMark_of_head {ts : List Ty} {n : Nat} {rest : List Char} (ends : EndsType rest) :
    ∀ c ∈ (argumentChars ts ++ (List.replicate n '?' ++ rest)).head?, IsMark c := by
  intro c first
  cases ts with
  | nil => rcases marks_head ends c first with rfl | rfl | rfl <;> decide
  | cons t ts =>
    obtain rfl : '<' = c := Option.some.inj first
    decide

theorem IsWellNamed.of_mem_arguments {t a : Ty} (wellNamed : t.IsWellNamed)
    (mem : a ∈ t.arguments) : a.IsWellNamed := by
  induction wellNamed with
  | named _ inner _ => exact inner a mem
  | nullable _ inductionHypothesis => exact inductionHypothesis mem
  | _ => exact absurd mem List.not_mem_nil

/-! ### The text tells the type -/

/-- **A well-named type can be told apart from what follows it**: first its word ends, then
its arguments do, and last its question marks. -/
theorem isDelimited {t : Ty} (wellNamed : t.IsWellNamed) : t.IsDelimited := by
  induction t using induction_on_arguments with
  | step t inductionHypothesis =>
    intro u rest rest' wellNamed' ends ends' same
    have notOpened : ∀ {n : Nat} {rest : List Char}, EndsType rest →
        ∀ c ∈ (List.replicate n '?' ++ rest).head?, c ≠ '<' := by
      rintro n rest ends c first rfl
      rcases marks_head ends _ first with isMark | isMark | isMark <;> contradiction
    rw [chars_eq t, chars_eq u, List.append_assoc, List.append_assoc, List.append_assoc,
      List.append_assoc] at same
    obtain ⟨words, behindWord⟩ := append_inj_of_forall (p := fun c => ¬ IsMark c)
      (hasNoMark_word wellNamed) (hasNoMark_word wellNamed')
      (fun c first => not_not_intro (isMark_of_head ends c first))
      (fun c first => not_not_intro (isMark_of_head ends' c first)) same
    obtain ⟨lists, behindList⟩ := argumentChars_append_inj
      (fun a mem => inductionHypothesis a mem (wellNamed.of_mem_arguments mem))
      (fun a mem => wellNamed'.of_mem_arguments mem) (notOpened ends) (notOpened ends') behindWord
    obtain ⟨counts, rests⟩ := marks_append_inj ends ends' behindList
    exact ⟨eq_of_parts_eq wellNamed wellNamed' words lists counts, rests⟩

/-- **The text of a well-named type is unambiguous**: two such types have one text exactly if
they are built alike. -/
theorem text_unambiguous {t u : Ty} (wellNamed : t.IsWellNamed) (wellNamed' : u.IsWellNamed) :
    t.text = u.text ↔ t = u := by
  constructor
  · intro same
    have ends : EndsType [] := fun c first => nomatch first
    have alone : t.chars ++ [] = u.chars ++ [] := congrArg (· ++ []) (String.ofList_injective same)
    exact (isDelimited wellNamed wellNamed' ends ends alone).1
  · rintro rfl
    rfl

/-- The lists of nullable 32-bit integers. -/
def sampleList : Ty :=
  named "List" [nullable int32]

/-- A nullable map from unresolved types to lists. -/
def sampleMap : Ty :=
  nullable (named "Map" [nullable error, sampleList])

/-- The same map with its question mark moved to the list. -/
def sampleMapOfNullables : Ty :=
  named "Map" [nullable error, nullable sampleList]

/-- Whether the map or the list in it is nullable can be seen. -/
theorem text_unambiguous_sampleMap :
    sampleMap.IsWellNamed ∧ sampleMapOfNullables.IsWellNamed ∧
      sampleMap.text ≠ sampleMapOfNullables.text := by
  have list : sampleList.IsWellNamed :=
    .named (by decide) (List.forall_mem_singleton.2 (.nullable (.integral 32 true)))
  have map : ∀ value : Ty, value.IsWellNamed →
      (named "Map" [nullable error, value]).IsWellNamed :=
    fun value wellNamed => .named (by decide)
      (List.forall_mem_cons.2 ⟨.nullable .error, List.forall_mem_singleton.2 wellNamed⟩)
  have first : sampleMap.IsWellNamed := .nullable (map _ list)
  have second : sampleMapOfNullables.IsWellNamed := map _ (.nullable list)
  exact ⟨first, second, mt (text_unambiguous first second).1 (by decide)⟩

end Ty

end BoundTree
