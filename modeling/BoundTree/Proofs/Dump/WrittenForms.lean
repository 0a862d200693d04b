import BoundTree.Operation.Dump
import BoundTree.Proofs.Dump.Sealed

/-!
# Written forms are sealed

Every written form that a dump shows is a sealed text.  Numbers, spans and the names of
variants and operators are plain throughout, constants that are texts are quoted, and a
type is plain but for the separators of its arguments, as far as the names in it are.

## Main definitions

* `AllPlain` — a text of plain characters
* `IsPlainName` — a name of letters, digits and underscores
* `Ty.names` — the names in a type

## Main statements

* `allPlain_decimal`, `allPlain_float`, `allPlain_span` — numbers and spans are plain
* `sealed_constant` — constants are sealed
* `Ty.sealed_chars` — so are types, if the names in them are plain
-/

namespace BoundTree

/-- The text consists of plain characters. -/
def AllPlain (cs : List Char) : Prop :=
  ∀ c ∈ cs, IsPlain c

instance (cs : List Char) : Decidable (AllPlain cs) :=
  List.decidableBAll IsPlain cs

/-- The name consists of letters, digits and underscores. -/
def IsPlainName (name : String) : Prop :=
  ∀ c ∈ name.toList, c.isAlphanum ∨ c = '_'

instance (name : String) : Decidable (IsPlainName name) :=
  List.decidableBAll (fun c : Char => c.isAlphanum = true ∨ c = '_') name.toList

namespace AllPlain

/-- Plain text is sealed: it has no blank and no comma at all. -/
theorem sealed {cs : List Char} (plain : AllPlain cs) : Sealed cs :=
  Sealed.of_plain plain

@[simp]
theorem nil : AllPlain [] :=
  fun _ mem => absurd mem List.not_mem_nil

@[simp]
theorem cons_iff {c : Char} {cs : List Char} :
    AllPlain (c :: cs) ↔ IsPlain c ∧ AllPlain cs :=
  List.forall_mem_cons

@[simp]
theorem append_iff {cs cs' : List Char} :
    AllPlain (cs ++ cs') ↔ AllPlain cs ∧ AllPlain cs' :=
  List.forall_mem_append

/-- A part of a plain text is plain, cut off at either end. -/
theorem take {cs : List Char} (plain : AllPlain cs) (n : Nat) : AllPlain (cs.take n) :=
  fun c mem => plain c (List.mem_of_mem_take mem)

theorem drop {cs : List Char} (plain : AllPlain cs) (n : Nat) : AllPlain (cs.drop n) :=
  fun c mem => plain c (List.mem_of_mem_drop mem)

theorem replicate {c : Char} (plain : IsPlain c) (n : Nat) : AllPlain (List.replicate n c) := by
  intro c' mem
  rw [List.eq_of_mem_replicate mem]
  exact plain

end AllPlain

/-- Letters, digits and underscores are plain, so a plain name is a plain text. -/
theorem IsPlainName.allPlain {name : String} (plain : IsPlainName name) :
    AllPlain name.toList := by
  intro c mem
  rcases plain c mem with isAlphanum | rfl
  · exact .of_isAlphanum isAlphanum
  · decide

/-! ### Numbers -/

/-- A numeral consists of digits. -/
theorem allPlain_ofNat (n : Nat) : AllPlain (Numeral.ofNat n) :=
  fun _ mem => .of_isDigit (Numeral.isDigit_of_mem_ofNat mem)

/-- The sign of a numeral is plain as well. -/
theorem allPlain_ofInt (n : Int) : AllPlain (Numeral.ofInt n) := by
  cases n with
  | ofNat n => exact allPlain_ofNat n
  | negSucc n => exact AllPlain.cons_iff.2 ⟨by decide, allPlain_ofNat (n + 1)⟩

theorem isPlain_zero : IsPlain '0' := by
  decide

theorem isPlain_point : IsPlain '.' := by
  decide

/-- Neither the point nor the zeros that pad the digits change that a text is plain. -/
theorem allPlain_pointed {digits : List Char} (plain : AllPlain digits) (scale : Nat) :
    AllPlain (Decimal.pointed digits scale) := by
  unfold Decimal.pointed
  split
  · exact plain
  · have padded : AllPlain (digits.leftpad (scale + 1) '0') :=
      AllPlain.append_iff.2 ⟨.replicate isPlain_zero _, plain⟩
    exact AllPlain.append_iff.2
      ⟨padded.take _, AllPlain.cons_iff.2 ⟨isPlain_point, padded.drop _⟩⟩

/-- A decimal is shown as a sign, digits and a point. -/
theorem allPlain_decimal (d : Decimal) : AllPlain d.chars := by
  refine AllPlain.append_iff.2 ⟨?_, allPlain_pointed (allPlain_ofNat _) _⟩
  unfold Decimal.signOf
  split <;> decide

/-- A float in positional form is made of its digits, zeros and a point. -/
theorem allPlain_positional {digits : List Char} (plain : AllPlain digits) (leading : Int) :
    AllPlain (FloatText.positional digits leading) := by
  have zeros := AllPlain.replicate isPlain_zero
  unfold FloatText.positional
  split
  · simp [isPlain_zero, isPlain_point, zeros, plain]
  · dsimp only
    split
    · simp [isPlain_zero, isPlain_point, zeros, plain]
    · simp [isPlain_point, plain.take, plain.drop]

/-- A float in exponential form is made of its digits, a point and a numeral behind an `e`. -/
theorem allPlain_exponential {digits : List Char} (plain : AllPlain digits) (leading : Int) :
    AllPlain (FloatText.exponential digits leading) := by
  have fraction : AllPlain (if digits.length ≤ 1 then [] else '.' :: digits.drop 1) := by
    split
    · exact .nil
    · exact AllPlain.cons_iff.2 ⟨isPlain_point, plain.drop 1⟩
  have exponent : AllPlain ('e' :: Numeral.ofInt leading) :=
    AllPlain.cons_iff.2 ⟨by decide, allPlain_ofInt leading⟩
  exact AllPlain.append_iff.2 ⟨AllPlain.append_iff.2 ⟨plain.take 1, fraction⟩, exponent⟩

/-- **Every float is shown in plain text**, one that is infinite or no number included. -/
theorem allPlain_float (format : FloatFormat) (bits : Nat) :
    AllPlain (format.chars bits) := by
  have sign : ∀ negative, AllPlain (FloatText.sign negative) := by
    decide
  unfold FloatFormat.chars
  split
  · decide
  · exact AllPlain.append_iff.2 ⟨sign _, by decide⟩
  · refine AllPlain.append_iff.2 ⟨sign _, ?_⟩
    split
    · decide
    · unfold FloatText.ofScientific
      dsimp only
      split
      · exact allPlain_positional (allPlain_ofNat _) _
      · exact allPlain_exponential (allPlain_ofNat _) _

/-- A span is shown as two numerals and two points. -/
theorem allPlain_span (s : Span) : AllPlain s.chars := by
  simp [Span.chars, allPlain_ofNat, isPlain_point]

/-! ### Names of variants and operators -/

/-- The names of the variants are plain. -/
theorem allPlain_kind (kind : OperationKind) : AllPlain kind.name.toList := by
  cases kind <;> decide

/-- So are the names of the operators. -/
theorem allPlain_operator (operator : BinaryOperator) : AllPlain operator.name.toList := by
  cases operator <;> decide

/-! ### Constants -/

/-- **The written form of every constant is sealed.**  Characters and strings are quoted, and all
other forms are plain. -/
theorem sealed_constant (constant : ConstantValue) : Sealed constant.chars := by
  cases constant with
  | null => exact AllPlain.sealed (by decide)
  | boolean value => cases value <;> exact AllPlain.sealed (by decide)
  | char value => exact .enclose (Or.inr rfl) _
  | integral value => exact (allPlain_ofInt value.value).sealed
  | single bits => exact (allPlain_float .single _).sealed
  | double bits => exact (allPlain_float .double _).sealed
  | decimal value => exact (allPlain_decimal value).sealed
  | string value => exact .enclose (Or.inl rfl) _

/-! ### Types -/

namespace Ty

mutual

/-- The names in a type, at any depth. -/
def names : Ty → List String
  | named name arguments => name :: namesAll arguments
  | nullable underlying => names underlying
  | _ => []

/-- The names in the types of a list. -/
def namesAll : List Ty → List String
  | [] => []
  | t :: ts => names t ++ namesAll ts

end

mutual

/-- A type with plain names is sealed. -/
theorem sealed_chars (t : Ty) (plain : ∀ name ∈ t.names, IsPlainName name) :
    Sealed t.chars := by
  cases t with
  | integral bits signed =>
    have width := (allPlain_ofNat bits.toNat).sealed
    have afterPrefix : Sealed ('I' :: 'n' :: 't' :: Numeral.ofNat bits.toNat) :=
      .plain (by decide) (.plain (by decide) (.plain (by decide) width))
    cases signed with
    | true => exact afterPrefix
    | false => exact .plain (by decide) afterPrefix
  | float bits =>
    unfold chars
    split <;> exact AllPlain.sealed (by decide)
  | decimal | boolean | char | string | object | error => exact AllPlain.sealed (by decide)
  | named name arguments =>
    rw [names, List.forall_mem_cons] at plain
    exact plain.1.allPlain.sealed.append (sealed_argumentChars arguments plain.2)
  | nullable underlying =>
    exact (sealed_chars underlying plain).append (AllPlain.sealed (by decide))

/-- The arguments of a type, with the bracket before them, are sealed: each but the first follows
a comma and a blank. -/
theorem sealed_argumentChars (ts : List Ty) (plain : ∀ name ∈ namesAll ts, IsPlainName name) :
    Sealed (argumentChars ts) := by
  cases ts with
  | nil => exact .nil
  | cons t ts =>
    rw [namesAll, List.forall_mem_append] at plain
    exact .plain (by decide) ((sealed_chars t plain.1).append (sealed_moreChars ts plain.2))

/-- So are the arguments behind the first one, with the bracket that closes them. -/
theorem sealed_moreChars (ts : List Ty) (plain : ∀ name ∈ namesAll ts, IsPlainName name) :
    Sealed (moreChars ts) := by
  cases ts with
  | nil => exact AllPlain.sealed (by decide)
  | cons t ts =>
    rw [namesAll, List.forall_mem_append] at plain
    exact .separator ((sealed_chars t plain.1).append (sealed_moreChars ts plain.2))

end

end Ty

end BoundTree
