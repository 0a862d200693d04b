import BoundTree.Json.Constant
import BoundTree.Json.Span
import BoundTree.Proofs.Json.Values

/-!
# Stored values are read back

Constants, decimals and spans are written as compact JSON and read back as they were:
with the same representation, the same mantissa and scale, the same characters.  White
space around the text does not matter, and a text with anything else behind it is
refused.

**Every written form denotes its value.**  What is special to a type is the JSON value
between the text and the typed value: the writer's text is read as that value, and the
typed reader takes it for the value that was written.

## Main definitions

* `ReadsBack` — a reader gives a value back from its written form

## Main statements

* `stored_values_read_back` — constants, decimals and spans are read back
-/

namespace BoundTree

/-- A reader gives a value back from its written form, with any white space around it, and
refuses the form with anything else behind it. -/
def ReadsBack {α : Type} (read : String → Option α) (text : List Char) (value : α) : Prop :=
  ∀ before : List Char, (∀ c ∈ before, Json.isSpace c = true) →
    (∀ after : List Char, (∀ c ∈ after, Json.isSpace c = true) →
      read (String.ofList (before ++ text ++ after)) = some value) ∧
    ∀ tail : List Char, (∃ c ∈ tail, Json.isSpace c = false) →
      read (String.ofList (before ++ text ++ tail)) = none

/-- A text is read back when it ends by itself and the value that it is read as denotes
what was written. -/
theorem Json.Reads.readsBack {α : Type} {ofJson? : Json → Option α} {text : List Char}
    {json : Json} {value : α} (reads : Json.Reads text json) (denotes : ofJson? json = some value) :
    ReadsBack (fun text => Json.read? text.toList >>= ofJson?) text value := by
  intro before allSpace
  constructor
  · intro after blank
    have empty := Json.skipSpace_eq_nil_iff.2 blank
    simp only [String.toList_ofList]
    rw [reads.read?_eq allSpace, if_pos empty]
    exact denotes
  · rintro tail ⟨c, mem, notSpace⟩
    have left : Json.skipSpace tail ≠ [] := by
      intro empty
      rw [Json.skipSpace_eq_nil_iff.1 empty c mem] at notSpace
      contradiction
    simp only [String.toList_ofList]
    rw [reads.read?_eq allSpace, if_neg left]
    rfl

namespace Json

/-! ### Integers and records -/

/-- An integer as a JSON value. -/
def ofInt (n : Int) : Json :=
  .number (integerToken n)

theorem integer?_ofInt (n : Int) : (ofInt n).integer? = some n := by
  cases n with
  | ofNat n => rfl
  | negSucc n =>
    show (if n + 1 = 0 then none else some (-((n + 1 : Nat) : Int))) = _
    rw [if_neg (Nat.succ_ne_zero n), Int.negSucc_eq]
    rfl

theorem wideInteger?_ofInt (n : Int) : (ofInt n).wideInteger? = some n := by
  cases n with
  | ofNat n => rfl
  | negSucc n =>
    show some (-((n + 1 : Nat) : Int)) = _
    rw [Int.negSucc_eq]
    rfl

/-- A record of two fields as a JSON object. -/
def ofRecord (first second : String) (x y : Json) : Json :=
  .object [(some first, x), (some second, y)]

/-- The record reader finds both fields of a record with different field names. -/
theorem record?_ofRecord {first second : String} (differ : first ≠ second) (x y : Json) :
    (ofRecord first second x y).record? first second = some (x, y) := by
  simp [ofRecord, record?, only?, valuesOf, differ, differ.symm]

/-- A record of two integers is read back. -/
theorem reads_record (first second : String) (m n : Int) :
    Reads (JsonText.object [(first, Numeral.ofInt m), (second, Numeral.ofInt n)])
      (ofRecord first second (ofInt m) (ofInt n)) := by
  have readBack : ∀ member ∈ [(⟨first, Numeral.ofInt m, ofInt m⟩ : WrittenMember),
      ⟨second, Numeral.ofInt n, ofInt n⟩], member.IsReadBack := by
    rw [List.forall_mem_cons, List.forall_mem_singleton]
    exact ⟨readsInside_ofInt m, readsInside_ofInt n⟩
  have object := reads_object readBack
  exact object

/-- An object of one member is read back when its value is read back inside of it. -/
theorem reads_tagged {tag : String} {text : List Char} {json : Json}
    (readBack : ReadsInside text json) :
    Reads (JsonText.tagged tag text) (.object [(some tag, json)]) := by
  have alone : ∀ member ∈ [(⟨tag, text, json⟩ : WrittenMember)], member.IsReadBack :=
    List.forall_mem_singleton.2 readBack
  have object := reads_object alone
  exact object

end Json

/-! ### Decimals and spans -/

/-- The JSON value of a decimal. -/
def Decimal.jsonValue (d : Decimal) : Json :=
  .ofRecord "mantissa" "scale" (.ofInt d.mantissa) (.ofInt d.scale)

theorem Decimal.reads_json (d : Decimal) : Json.Reads d.json d.jsonValue :=
  Json.reads_record "mantissa" "scale" d.mantissa d.scale

/-- The JSON value of a decimal denotes it, whatever its scale. -/
theorem Decimal.ofJson?_jsonValue (d : Decimal) : Decimal.ofJson? d.jsonValue = some d := by
  have parts : Decimal.stored? d.mantissa d.scale = some d :=
    Decimal.stored?_eq_some_iff.2 ⟨rfl, rfl⟩
  simp [Decimal.ofJson?, Decimal.jsonValue, Json.record?_ofRecord, Json.wideInteger?_ofInt,
    Json.integer?_ofInt, parts]

/-- **Decimals are read back.** -/
theorem Decimal.readsBack (d : Decimal) : ReadsBack Decimal.read? d.json d :=
  d.reads_json.readsBack d.ofJson?_jsonValue

/-- The JSON value of a span. -/
def Span.jsonValue (s : Span) : Json :=
  .ofRecord "start" "end" (.ofInt s.start.toNat) (.ofInt s.stop.toNat)

theorem Span.reads_json (s : Span) : Json.Reads s.json s.jsonValue :=
  Json.reads_record "start" "end" s.start.toNat s.stop.toNat

/-- A word is within its range, so the reader of words takes it. -/
theorem Span.wordOfJson?_ofInt (word : UInt64) :
    Span.wordOfJson? (.ofInt word.toNat) = some word := by
  have bound : word.toNat < 18446744073709551616 := word.toNat_lt
  have inRange : (0 : Int) ≤ word.toNat ∧ (word.toNat : Int) < 18446744073709551616 := by omega
  rw [Span.wordOfJson?, Json.integer?_ofInt, Option.bind_eq_bind, Option.bind_some,
    if_pos inRange, Int.toNat_natCast, UInt64.ofNat_toNat]
  rfl

theorem Span.ofJson?_jsonValue (s : Span) : Span.ofJson? s.jsonValue = some s := by
  rw [Span.ofJson?, Span.jsonValue, Json.record?_ofRecord (by decide), Option.bind_eq_bind,
    Option.bind_some]
  dsimp only
  rw [Span.wordOfJson?_ofInt, Span.wordOfJson?_ofInt]
  rfl

/-- **Spans are read back**, reversed ones included. -/
theorem Span.readsBack (s : Span) : ReadsBack Span.read? s.json s :=
  s.reads_json.readsBack s.ofJson?_jsonValue

/-! ### Constants -/

namespace ConstantValue

/-- The constant has a floating-point representation. -/
def IsFloating : ConstantValue → Prop
  | single _ | double _ => True
  | _ => False

/-- An object of one member denotes the constant that its content denotes under the tag. -/
theorem ofJson?_tagged {tag : String} {content : Json} {constant : ConstantValue}
    (denotes : ofContent? tag content = some constant) :
    ofJson? (.object [(some tag, content)]) = some constant := by
  simp [ofJson?, Json.choice?, denotes]

/-- An integer is read back in the width that its tag names. -/
theorem ofContent?_integral (value : Integral) :
    ofContent? value.kind.name (.ofInt value.value) = some (integral value) := by
  have whole : Integral.ofInt? value.kind value.value = some value :=
    Integral.ofInt?_eq_some_iff.2 ⟨rfl, rfl⟩
  have named := IntegralKind.named?_name value.kind
  generalize value.kind = kind at whole named ⊢
  cases kind <;>
    simp_all [ofContent?, IntegralKind.name, Json.integer?_ofInt]

/-- **Every written constant is read as a value that denotes it.** -/
theorem exists_reads {constant : ConstantValue} (stored : ¬ constant.IsFloating) :
    ∃ text json, constant.json? = some text ∧ Json.Reads text json ∧
      ofJson? json = some constant := by
  cases constant with
  | null => exact ⟨_, _, rfl, Json.reads_string _, rfl⟩
  | boolean value =>
    cases value with
    | true => exact ⟨_, _, rfl, Json.reads_tagged Json.reads_true.inside, ofJson?_tagged rfl⟩
    | false => exact ⟨_, _, rfl, Json.reads_tagged Json.reads_false.inside, ofJson?_tagged rfl⟩
  | char value =>
    refine ⟨_, _, rfl, Json.reads_tagged (Json.reads_string [value]).inside, ofJson?_tagged ?_⟩
    simp [ofContent?]
  | integral value =>
    exact ⟨_, _, rfl, Json.reads_tagged (Json.readsInside_ofInt value.value),
      ofJson?_tagged (ofContent?_integral value)⟩
  | single bits => exact absurd trivial stored
  | double bits => exact absurd trivial stored
  | decimal value =>
    refine ⟨_, _, rfl, Json.reads_tagged value.reads_json.inside, ofJson?_tagged ?_⟩
    simp [ofContent?, value.ofJson?_jsonValue]
  | string value =>
    refine ⟨_, _, rfl, Json.reads_tagged (Json.reads_string value.toList).inside,
      ofJson?_tagged ?_⟩
    simp [ofContent?]

end ConstantValue

/-- **Stored values are read back.**  This holds of every constant that is not
floating-point, of every decimal and of every span. -/
theorem stored_values_read_back :
    (∀ constant : ConstantValue, ¬ constant.IsFloating →
      ∃ text, constant.json? = some text ∧ ReadsBack ConstantValue.read? text constant) ∧
    (∀ d : Decimal, ReadsBack Decimal.read? d.json d) ∧
    ∀ s : Span, ReadsBack Span.read? s.json s := by
  refine ⟨fun constant stored => ?_, Decimal.readsBack, Span.readsBack⟩
  obtain ⟨text, json, written, reads, denotes⟩ := ConstantValue.exists_reads stored
  exact ⟨text, written, reads.readsBack denotes⟩

/-- The decimal with the least mantissa and the largest scale that storage holds. -/
def leastDecimal : Decimal where
  mantissa := -mantissaBound
  scale := 255
  mantissa_bounds := by decide
  scale_lt := by decide

/-- A decimal beyond the scale that the checked constructor allows is read back too. -/
theorem leastDecimal_read_back :
    ¬ (ConstantValue.decimal leastDecimal).IsFloating ∧
      ∃ text, (ConstantValue.decimal leastDecimal).json? = some text ∧
        ReadsBack ConstantValue.read? text (.decimal leastDecimal) :=
  ⟨id, stored_values_read_back.1 (.decimal leastDecimal) id⟩

end BoundTree
