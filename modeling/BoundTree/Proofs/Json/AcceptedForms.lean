import BoundTree.Proofs.Json.RoundTrip

/-!
# The forms that are accepted

What a typed reader takes is said here without the reader: by the JSON values that
denote a span, a decimal or a constant.  A reader gives a value exactly for the forms of
that value, so everything else is refused.

**Records.**  The object of a record is, up to the order of its members, the two fields
and then any members with other keys.  A field that is missing or repeated cannot be
brought into this order.

**Zero behind a minus.**  The one integer with two tokens is zero.  Only the mantissa of
a decimal, which may take more than 64 bits, is read from both.

## Main definitions

* `Json.RecordForm` — the JSON values of a record of two fields
* `Span.Form`, `Decimal.Form`, `ConstantValue.Form` — the JSON values of a typed value

## Main statements

* `Json.record?_eq_some_iff` — a record is read exactly from its forms
* `reads_iff_form` — so are spans, decimals and constants that are not floating-point
-/

namespace BoundTree

namespace Json

/-! ### Integers -/

/-- The reader of integers takes the token of the integer and no other: no fraction part, no
exponent and no minus before a zero. -/
theorem integer?_eq_some_iff {json : Json} {n : Int} :
    json.integer? = some n ↔ json = .ofInt n := by
  constructor
  · intro denotes
    unfold integer? at denotes
    split at denotes
    case h_1 magnitude =>
      injection denotes with same
      subst same
      rfl
    case h_2 magnitude =>
      split at denotes
      · contradiction
      · injection denotes with same
        subst same
        obtain ⟨k, rfl⟩ := Nat.exists_eq_succ_of_ne_zero ‹magnitude ≠ 0›
        rfl
    case h_3 => contradiction
  · rintro rfl
    exact integer?_ofInt n

/-- The JSON values of an integer that may take more than 64 bits. -/
inductive WideForm : Int → Json → Prop
  | plain (n : Int) : WideForm n (.ofInt n)
  | minusZero : WideForm 0 (.number (.integer true 0))

/-- The reader of wide integers takes a minus before a zero as well. -/
theorem wideInteger?_eq_some_iff {json : Json} {n : Int} :
    json.wideInteger? = some n ↔ WideForm n json := by
  constructor
  · intro denotes
    unfold wideInteger? at denotes
    split at denotes
    case h_1 magnitude =>
      injection denotes with same
      subst same
      exact .plain magnitude
    case h_2 magnitude =>
      injection denotes with same
      subst same
      cases magnitude with
      | zero => exact .minusZero
      | succ k => exact .plain (Int.negSucc k)
    case h_3 => contradiction
  · rintro (_ | _)
    · exact wideInteger?_ofInt n
    · rfl

/-! ### Records -/

/-- A member whose key is a text. -/
def keyed (member : String × Json) : StringToken × Json :=
  (some member.1, member.2)

/-- The JSON values of a record whose two fields hold `x` and `y`: an array of the two, or
an object of the two fields among members with other keys, in any order. -/
inductive RecordForm (first second : String) (x y : Json) : Json → Prop
  | array : RecordForm first second x y (.array [x, y])
  | object {members others : List (String × Json)}
      (arranged : members.Perm ((first, x) :: (second, y) :: others))
      (foreign : ∀ member ∈ others, member.1 ≠ first ∧ member.1 ≠ second) :
      RecordForm first second x y (.object (members.map keyed))

theorem exists_map_keyed {members : List (StringToken × Json)}
    (texts : members.all (·.1.isSome) = true) :
    ∃ named : List (String × Json), members = named.map keyed := by
  induction members with
  | nil => exact ⟨[], rfl⟩
  | cons member rest inductionHypothesis =>
    rw [List.all_cons, Bool.and_eq_true] at texts
    obtain ⟨key, text⟩ := Option.isSome_iff_exists.1 texts.1
    obtain ⟨named, rfl⟩ := inductionHypothesis texts.2
    exact ⟨(key, member.2) :: named, by rw [List.map_cons, keyed, ← text]⟩

theorem all_isSome_map_keyed (members : List (String × Json)) :
    (members.map keyed).all (·.1.isSome) = true := by
  simp [keyed]

theorem valuesOf_map_keyed (key : String) (members : List (String × Json)) :
    valuesOf key (members.map keyed) = (members.filter (·.1 = key)).map Prod.snd := by
  induction members with
  | nil => rfl
  | cons member rest inductionHypothesis =>
    have step : valuesOf key (keyed member :: rest.map keyed) =
        if member.1 = key then member.2 :: valuesOf key (rest.map keyed)
        else valuesOf key (rest.map keyed) := by
      by_cases same : member.1 = key <;> simp [valuesOf, keyed, same]
    rw [List.map_cons, step, inductionHypothesis]
    by_cases same : member.1 = key <;> simp [same]

/-- A key has one value when exactly one member has the key. -/
theorem only?_map_keyed_eq_some_iff {key : String} {members : List (String × Json)} {x : Json} :
    only? key (members.map keyed) = some x ↔ members.filter (·.1 = key) = [(key, x)] := by
  have single : only? key (members.map keyed) = some x ↔
      (members.filter (·.1 = key)).map Prod.snd = [x] := by
    rw [only?, valuesOf_map_keyed]
    split
    case h_1 value found => simp [found]
    case h_2 notSingle => simpa using notSingle x
  rw [single, List.map_eq_singleton_iff]
  constructor
  · rintro ⟨member, found, rfl⟩
    have mem : member ∈ members.filter (·.1 = key) := by rw [found]; exact List.mem_singleton_self _
    have same : member.1 = key := by simpa using (List.mem_filter.1 mem).2
    rw [found, ← same]
  · exact fun found => ⟨_, found, rfl⟩

variable {first second : String} {x y : Json}

/-- The two fields can be brought to the front when each of them is there once. -/
theorem perm_of_filter_eq {members : List (String × Json)} (differ : first ≠ second)
    (hasFirst : members.filter (·.1 = first) = [(first, x)])
    (hasSecond : members.filter (·.1 = second) = [(second, y)]) :
    members.Perm ((first, x) :: (second, y) ::
      (members.filter (·.1 ≠ first)).filter (·.1 ≠ second)) := by
  have others : (members.filter (·.1 ≠ first)).filter (·.1 = second) = [(second, y)] := by
    rw [List.filter_filter, ← hasSecond]
    refine List.filter_congr fun member _ => ?_
    by_cases same : member.1 = second <;> simp [same, differ.symm]
  have secondInFront := List.filter_append_perm (·.1 = second) (members.filter (·.1 ≠ first))
  have firstInFront := List.filter_append_perm (·.1 = first) members
  simp only [ne_eq, decide_not] at others secondInFront firstInFront ⊢
  rw [others] at secondInFront
  rw [hasFirst] at firstInFront
  exact firstInFront.symm.trans (secondInFront.symm.cons _)

/-- Members with other keys do not hide a field, nor does their order. -/
theorem filter_eq_of_perm {key : String} {members others : List (String × Json)}
    (arranged : members.Perm ((key, x) :: others)) (foreign : ∀ member ∈ others, member.1 ≠ key) :
    members.filter (·.1 = key) = [(key, x)] := by
  have none : others.filter (·.1 = key) = [] :=
    List.filter_eq_nil_iff.2 fun member mem => by simpa using foreign member mem
  have filtered := arranged.filter (·.1 = key)
  rw [List.filter_cons_of_pos (by simp), none] at filtered
  exact List.perm_singleton.1 filtered

/-- An object of named members with one value for each field is a form of the record. -/
theorem recordForm_of_only? (differ : first ≠ second) {members : List (StringToken × Json)}
    (texts : members.all (·.1.isSome) = true) (hasFirst : only? first members = some x)
    (hasSecond : only? second members = some y) :
    RecordForm first second x y (.object members) := by
  obtain ⟨named, rfl⟩ := exists_map_keyed texts
  rw [only?_map_keyed_eq_some_iff] at hasFirst hasSecond
  refine .object (perm_of_filter_eq differ hasFirst hasSecond) fun member mem => ?_
  have outside := List.mem_filter.1 mem
  have notFirst := (List.mem_filter.1 outside.1).2
  exact ⟨by simpa using notFirst, by simpa using outside.2⟩

theorem RecordForm.record? (differ : first ≠ second) {json : Json}
    (form : RecordForm first second x y json) : json.record? first second = some (x, y) := by
  cases form with
  | array => rfl
  | object arranged foreign =>
    have hasFirst := filter_eq_of_perm arranged <|
      List.forall_mem_cons.2 ⟨differ.symm, fun member mem => (foreign member mem).1⟩
    have hasSecond := filter_eq_of_perm (arranged.trans (.swap _ _ _)) <|
      List.forall_mem_cons.2 ⟨differ, fun member mem => (foreign member mem).2⟩
    rw [Json.record?, if_pos (all_isSome_map_keyed _), only?_map_keyed_eq_some_iff.2 hasFirst,
      only?_map_keyed_eq_some_iff.2 hasSecond]
    rfl

/-- **A record is read exactly from its forms.** -/
theorem record?_eq_some_iff (differ : first ≠ second) {json : Json} :
    json.record? first second = some (x, y) ↔ RecordForm first second x y json := by
  refine ⟨fun denotes => ?_, RecordForm.record? differ⟩
  unfold Json.record? at denotes
  split at denotes
  case h_1 =>
    injection denotes with same
    injection same with sameFirst sameSecond
    subst sameFirst sameSecond
    exact .array
  case h_2 members =>
    split at denotes
    case isTrue texts =>
      obtain ⟨_, hasFirst, denotes⟩ := Option.bind_eq_some_iff.1 denotes
      obtain ⟨_, hasSecond, denotes⟩ := Option.bind_eq_some_iff.1 denotes
      injection denotes with same
      injection same with sameFirst sameSecond
      subst sameFirst sameSecond
      exact recordForm_of_only? differ texts hasFirst hasSecond
    case isFalse => contradiction
  case h_3 => contradiction

/-! ### Choices -/

/-- A choice without content is a string. -/
theorem eq_string_of_choice? {json : Json} {name : String}
    (bare : json.choice? = some (name, none)) : json = .string (some name) := by
  unfold choice? at bare
  split at bare
  case h_1 => cases bare; rfl
  case h_2 => cases bare
  case h_3 => contradiction

/-- A choice with content is an object of one member. -/
theorem eq_object_of_choice? {json : Json} {name : String} {content : Json}
    (tagged : json.choice? = some (name, some content)) :
    json = .object [(some name, content)] := by
  unfold choice? at tagged
  split at tagged
  case h_1 => cases tagged
  case h_2 => cases tagged; rfl
  case h_3 => contradiction

/-- The text of the first key of an object. -/
def firstKey? : Json → Option String
  | object ((key, _) :: _) => key
  | _ => none

end Json

/-! ### Spans and decimals -/

/-- The reader of words takes the tokens of the integers in range. -/
theorem Span.wordOfJson?_eq_some_iff {json : Json} {word : UInt64} :
    wordOfJson? json = some word ↔ json = .ofInt word.toNat := by
  constructor
  · intro denotes
    obtain ⟨n, whole, inRange⟩ := Option.bind_eq_some_iff.1 denotes
    rw [Json.integer?_eq_some_iff.1 whole]
    split at inRange
    case isTrue bounds =>
      injection inRange with same
      subst same
      have below : n.toNat < UInt64.size := (Int.toNat_lt bounds.1).2 bounds.2
      rw [UInt64.toNat_ofNat_of_lt' below, Int.toNat_of_nonneg bounds.1]
    case isFalse => contradiction
  · rintro rfl
    exact wordOfJson?_ofInt word

/-- The JSON values of a span: the records of its two ends, which are words of 64 bits. -/
def Span.Form (json : Json) (s : Span) : Prop :=
  Json.RecordForm "start" "end" (.ofInt s.start.toNat) (.ofInt s.stop.toNat) json

/-- **The accepted forms of a span.** -/
theorem Span.ofJson?_eq_some_iff {json : Json} {s : Span} :
    ofJson? json = some s ↔ Form json s := by
  rw [Form, ← Json.record?_eq_some_iff (by decide), ofJson?]
  constructor
  · intro denotes
    simp only [Option.bind_eq_bind, Option.bind_eq_some_iff, Prod.exists] at denotes
    obtain ⟨x, y, record, start, isStart, stop, isStop, same⟩ := denotes
    injection same with same
    subst same
    rw [record, wordOfJson?_eq_some_iff.1 isStart, wordOfJson?_eq_some_iff.1 isStop]
  · intro record
    rw [record, Option.bind_eq_bind, Option.bind_some]
    dsimp only
    rw [wordOfJson?_ofInt, wordOfJson?_ofInt]
    rfl

/-- The JSON values of a decimal: the records of its mantissa and its scale, as far as 128
signed bits and 8 bits hold them. -/
def Decimal.Form (json : Json) (d : Decimal) : Prop :=
  ∃ mantissa, Json.WideForm d.mantissa mantissa ∧
    Json.RecordForm "mantissa" "scale" mantissa (.ofInt d.scale) json

/-- **The accepted forms of a decimal**, which any scale below 256 can have. -/
theorem Decimal.ofJson?_eq_some_iff {json : Json} {d : Decimal} :
    ofJson? json = some d ↔ Form json d := by
  constructor
  · intro denotes
    obtain ⟨⟨x, y⟩, record, denotes⟩ := Option.bind_eq_some_iff.1 denotes
    obtain ⟨mantissa, isMantissa, denotes⟩ := Option.bind_eq_some_iff.1 denotes
    obtain ⟨scale, isScale, denotes⟩ := Option.bind_eq_some_iff.1 denotes
    split at denotes
    case isTrue nonneg =>
      obtain ⟨rfl, sameScale⟩ := stored?_eq_some_iff.1 denotes
      have token : y = .ofInt d.scale := by
        rw [sameScale, Int.toNat_of_nonneg nonneg]
        exact Json.integer?_eq_some_iff.1 isScale
      subst token
      exact ⟨x, Json.wideInteger?_eq_some_iff.1 isMantissa,
        (Json.record?_eq_some_iff (by decide)).1 record⟩
    case isFalse => contradiction
  · rintro ⟨mantissa, isMantissa, form⟩
    have parts : stored? d.mantissa d.scale = some d := stored?_eq_some_iff.2 ⟨rfl, rfl⟩
    simp [ofJson?, (Json.record?_eq_some_iff (by decide)).2 form,
      Json.wideInteger?_eq_some_iff.2 isMantissa, Json.integer?_ofInt, parts]

/-! ### Constants -/

/-- A width is found under its own name only. -/
theorem IntegralKind.eq_name_of_named? {name : String} {kind : IntegralKind}
    (found : named? name = some kind) : name = kind.name := by
  have same := List.find?_some found
  exact (beq_iff_eq.1 same).symm

namespace ConstantValue

/-- The JSON values of a constant that is not floating-point: the name of the null
constant, or an object of one member, the name of the representation with the value. -/
inductive Form : Json → ConstantValue → Prop
  | bareNull : Form (.string (some "Null")) .null
  | null : Form (.object [(some "Null", .null)]) .null
  | boolean (value : Bool) : Form (.object [(some "Boolean", .boolean value)]) (.boolean value)
  | char (value : Char) :
      Form (.object [(some "Char", .string (some (String.singleton value)))]) (.char value)
  | string (value : String) :
      Form (.object [(some "String", .string (some value))]) (.string value)
  | integral (value : Integral) :
      Form (.object [(some value.kind.name, .ofInt value.value)]) (.integral value)
  | decimal {content : Json} {value : Decimal} (form : Decimal.Form content value) :
      Form (.object [(some "Decimal", content)]) (.decimal value)

/-- An object of one member denotes what the member denotes, if its name is that of no
floating-point representation. -/
theorem form_of_ofContent? {name : String} {content : Json} {constant : ConstantValue}
    (notSingle : name ≠ "Single") (notDouble : name ≠ "Double")
    (denotes : ofContent? name content = some constant) :
    Form (.object [(some name, content)]) constant := by
  unfold ofContent? at denotes
  split at denotes
  case h_1 =>
    injection denotes with same
    subst same
    exact .null
  case h_2 value =>
    injection denotes with same
    subst same
    exact .boolean value
  case h_3 value =>
    split at denotes
    case h_1 c characters =>
      injection denotes with same
      subst same
      rw [← String.ofList_toList (s := value), characters]
      exact .char c
    case h_2 => contradiction
  case h_4 => contradiction
  case h_5 => contradiction
  case h_6 =>
    obtain ⟨d, isDecimal, same⟩ := Option.map_eq_some_iff.1 denotes
    subst same
    exact .decimal (Decimal.ofJson?_eq_some_iff.1 isDecimal)
  case h_7 value =>
    injection denotes with same
    subst same
    exact .string value
  case h_8 =>
    obtain ⟨kind, isKind, denotes⟩ := Option.bind_eq_some_iff.1 denotes
    obtain ⟨n, isWhole, denotes⟩ := Option.bind_eq_some_iff.1 denotes
    obtain ⟨value, inRange, denotes⟩ := Option.bind_eq_some_iff.1 denotes
    injection denotes with same
    subst same
    obtain ⟨rfl, rfl⟩ := Integral.ofInt?_eq_some_iff.1 inRange
    rw [IntegralKind.eq_name_of_named? isKind, Json.integer?_eq_some_iff.1 isWhole]
    exact .integral value

theorem Form.ofJson? {json : Json} {constant : ConstantValue} (form : Form json constant) :
    ofJson? json = some constant := by
  cases form with
  | bareNull => rfl
  | null => exact ofJson?_tagged rfl
  | boolean value => exact ofJson?_tagged rfl
  | char value => exact ofJson?_tagged (by simp [ofContent?])
  | string value => exact ofJson?_tagged rfl
  | integral value => exact ofJson?_tagged (ofContent?_integral value)
  | decimal form =>
    exact ofJson?_tagged (by simp [ofContent?, Decimal.ofJson?_eq_some_iff.2 form])

/-- **A constant is read exactly from its forms**, unless what is read is an object that
begins with the name of a floating-point representation. -/
theorem ofJson?_eq_some_iff {json : Json} {constant : ConstantValue}
    (notSingle : json.firstKey? ≠ some "Single") (notDouble : json.firstKey? ≠ some "Double") :
    ofJson? json = some constant ↔ Form json constant := by
  refine ⟨fun denotes => ?_, Form.ofJson?⟩
  unfold ConstantValue.ofJson? at denotes
  split at denotes
  case h_1 bare =>
    injection denotes with same
    subst same
    rw [Json.eq_string_of_choice? bare]
    exact .bareNull
  case h_2 name content tagged =>
    have object := Json.eq_object_of_choice? tagged
    subst object
    have named : ∀ other, some name ≠ some other → name ≠ other := fun _ differ same =>
      differ (congrArg some same)
    exact form_of_ofContent? (named _ notSingle) (named _ notDouble) denotes
  case h_3 => contradiction

end ConstantValue

/-- **Reading accepts exactly the stated forms.**  This holds of spans, of decimals, and of
constants outside of the floating-point representations. -/
theorem reads_iff_form :
    (∀ (json : Json) (s : Span), Span.ofJson? json = some s ↔ s.Form json) ∧
    (∀ (json : Json) (d : Decimal), Decimal.ofJson? json = some d ↔ d.Form json) ∧
    ∀ json : Json, json.firstKey? ≠ some "Single" → json.firstKey? ≠ some "Double" →
      ∀ constant : ConstantValue,
        ConstantValue.ofJson? json = some constant ↔ constant.Form json :=
  ⟨fun _ _ => Span.ofJson?_eq_some_iff, fun _ _ => Decimal.ofJson?_eq_some_iff,
    fun _ notSingle notDouble _ => ConstantValue.ofJson?_eq_some_iff notSingle notDouble⟩

/-- The decimal `1.50`. -/
def oneAndAHalf : Decimal where
  mantissa := 150
  scale := 2
  mantissa_bounds := by decide
  scale_lt := by decide

/-- Its two fields in the other order, with a member between them that is no field. -/
def scatteredFields : Json :=
  .object [(some "scale", .ofInt 2), (some "note", .null), (some "mantissa", .ofInt 150)]

theorem form_scatteredFields : oneAndAHalf.Form scatteredFields := by
  have arranged : List.Perm
      [("scale", Json.ofInt 2), ("note", Json.null), ("mantissa", Json.ofInt 150)]
      [("mantissa", Json.ofInt 150), ("scale", Json.ofInt 2), ("note", Json.null)] :=
    List.perm_append_singleton ("mantissa", Json.ofInt 150) [("scale", .ofInt 2), ("note", .null)]
  refine ⟨.ofInt 150, .plain 150, .object arranged ?_⟩
  exact List.forall_mem_singleton.2 ⟨by decide, by decide⟩

/-- A decimal with its fields in reversed order and a foreign member between them is read. -/
theorem reads_iff_form_scatteredFields :
    (Json.object [(some "Decimal", scatteredFields)]).firstKey? ≠ some "Single" ∧
      (Json.object [(some "Decimal", scatteredFields)]).firstKey? ≠ some "Double" ∧
      ConstantValue.ofJson? (.object [(some "Decimal", scatteredFields)]) =
        some (.decimal oneAndAHalf) := by
  have notSingle : (Json.object [(some "Decimal", scatteredFields)]).firstKey? ≠ some "Single" :=
    by decide
  have notDouble : (Json.object [(some "Decimal", scatteredFields)]).firstKey? ≠ some "Double" :=
    by decide
  exact ⟨notSingle, notDouble,
    (reads_iff_form.2.2 _ notSingle notDouble _).2 (.decimal form_scatteredFields)⟩

end BoundTree
