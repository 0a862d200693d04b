import BoundTree.Proofs.Dump.WrittenForms

/-!
# What a line shows

A dump does not show everything about an operation: it shows its variant, its span, its
implicit flag, the written forms of its type and constant, and the details of its
variant as far as names.  The line of an operation is made from that and nothing else.

**What is shown can be read off the line**, as long as names keep to letters, digits and
underscores.  A line is a row of sealed words, so it determines its fields, and each
kind of information has a field of its own.

## Main definitions

* `Printed`, `Operation.printed` — what a line shows of an operation
* `Printed.fields` — the same as a list of named fields
* `Operation.printedNames` — the names that a line shows

## Main statements

* `Operation.line_eq` — a line is made from what is shown
* `Operation.printed_eq_of_line_eq` — what is shown can be read off the line
-/

namespace BoundTree

/-- What a line shows of an operator as it is applied. -/
structure PrintedUse where
  operator : BinaryOperator
  isLifted : Bool
  isChecked : Bool
  /-- Whether strings are compared as text; unset in a variant without that flag. -/
  isCompareText : Bool
  methodName? : Option String

/-- What a line shows of an operation. -/
structure Printed where
  kind : OperationKind
  span : Span
  isImplicit : Bool
  typeText? : Option String
  constantText? : Option String
  /-- The names of the declared locals, if the operation is a declaration. -/
  localNames? : Option (List String)
  /-- The operator, if the operation applies one. -/
  use? : Option PrintedUse

/-- What a line shows of an operator. -/
def OperatorUse.printed (use : OperatorUse) (isCompareText : Bool) : PrintedUse where
  operator := use.operator
  isLifted := use.isLifted
  isChecked := use.isChecked
  isCompareText := isCompareText
  methodName? := use.method?.map (·.name)

namespace Operation

/-- The names of the locals that an operation declares. -/
def localNames? : Operation → Option (List String)
  | variableDeclaration _ locals _ => some (locals.toList.map (·.name))
  | _ => none

/-- What a line shows of the operator that an operation applies. -/
def printedUse? : Operation → Option PrintedUse
  | compoundAssignmentExpression _ use _ _ => some (use.printed false)
  | binaryOperatorExpression _ use isCompareText _ _ => some (use.printed isCompareText)
  | _ => none

/-- What the line of an operation shows. -/
def printed (op : Operation) : Printed where
  kind := op.kind
  span := op.anchor.span
  isImplicit := op.isImplicit
  typeText? := op.type?.map Ty.text
  constantText? := op.constant?.map ConstantValue.text
  localNames? := op.localNames?
  use? := op.printedUse?

/-- The names that the line of an operation shows: those of locals, that of a method,
and those inside of the type. -/
def printedNames (op : Operation) : List String :=
  op.localNames?.getD [] ++ (op.printedUse?.bind (·.methodName?)).toList ++
    op.type?.elim [] Ty.names

end Operation

/-! ### Fields -/

/-- A field of a line: its name, and its value unless it is a flag. -/
abbrev LineField := String × Option (List Char)

namespace LineField

/-- The word that shows a field. -/
def word : LineField → List Char
  | (name, none) => name.toList
  | (name, some value) => name.toList ++ '=' :: value

/-- The field that a word shows, its name ending before the first equals sign. -/
def ofWord (word : List Char) : LineField :=
  (String.ofList (word.takeWhile (· != '=')), (word.dropWhile (· != '=')).tail?)

/-- A field that is present only when a flag is set. -/
def flag (name : String) (isSet : Bool) : List LineField :=
  if isSet then [(name, none)] else []

/-- A field that is present only with a value. -/
def optional (name : String) (value? : Option (List Char)) : List LineField :=
  value?.toList.map fun value => (name, some value)

/-- A word shows one field when no name holds an equals sign. -/
theorem ofWord_word {field : LineField} (noEquals : '=' ∉ field.1.toList) :
    ofWord field.word = field := by
  obtain ⟨name, value?⟩ := field
  have passes : ∀ c ∈ name.toList, (c != '=') = true := by
    intro c mem
    exact bne_iff_ne.2 fun isEquals => noEquals (isEquals ▸ mem)
  cases value? with
  | none =>
    -- without an equals sign the name goes on to the end of the word
    have whole : (name.toList ++ []).takeWhile (· != '=') = name.toList ++ [] :=
      List.takeWhile_append_of_pos passes
    have nothing : (name.toList ++ []).dropWhile (· != '=') = [] :=
      List.dropWhile_append_of_pos passes
    rw [List.append_nil] at whole nothing
    simp [ofWord, word, whole, nothing]
  | some value =>
    simp [ofWord, word, List.takeWhile_append_of_pos passes,
      List.dropWhile_append_of_pos passes]

/-- The value of the first field of a name, if that field is there and has one. -/
def value? (key : String) (fields : List LineField) : Option (List Char) :=
  fields.findSome? fun field => if field.1 = key then field.2 else none

/-- Whether a field of a name is there. -/
def isPresent (key : String) (fields : List LineField) : Bool :=
  fields.any fun field => field.1 = key

/-- The first field with a name counts. -/
@[simp]
theorem value?_append (key : String) (fields fields' : List LineField) :
    value? key (fields ++ fields') = (value? key fields).or (value? key fields') :=
  List.findSome?_append

@[simp]
theorem isPresent_append (key : String) (fields fields' : List LineField) :
    isPresent key (fields ++ fields') = (isPresent key fields || isPresent key fields') :=
  List.any_append

@[simp]
theorem value?_flag (key name : String) (isSet : Bool) : value? key (flag name isSet) = none := by
  cases isSet <;> simp [value?, flag]

/-- A flag is present exactly if it is set. -/
@[simp]
theorem isPresent_flag (key name : String) (isSet : Bool) :
    isPresent key (flag name isSet) = (decide (name = key) && isSet) := by
  cases isSet <;> simp [isPresent, flag]

/-- An optional field has its value, if it is the field that is asked for. -/
@[simp]
theorem value?_optional (key name : String) (given : Option (List Char)) :
    value? key (optional name given) = if name = key then given else none := by
  cases given <;> simp [value?, optional]

@[simp]
theorem isPresent_optional (key name : String) (given : Option (List Char)) :
    isPresent key (optional name given) = (decide (name = key) && given.isSome) := by
  cases given <;> simp [isPresent, optional]

theorem forall_mem_flag {name : String} {isSet : Bool} {P : LineField → Prop} :
    (∀ field ∈ flag name isSet, P field) ↔ (isSet → P (name, none)) := by
  cases isSet <;> simp [flag]

theorem forall_mem_optional {name : String} {given : Option (List Char)} {P : LineField → Prop} :
    (∀ field ∈ optional name given, P field) ↔ ∀ value ∈ given, P (name, some value) := by
  cases given <;> simp [optional]

/-- The word of a field is sealed if its name is plain and its value sealed. -/
theorem sealed_word {field : LineField} (name : AllPlain field.1.toList)
    (value : ∀ value ∈ field.2, Sealed value) : Sealed field.word := by
  obtain ⟨_, value?⟩ := field
  cases value? with
  | none => exact name.sealed
  | some given => exact name.sealed.append (.plain (by decide) (value given rfl))

/-! The fields of a line, each after a blank. -/

/-- A list of fields as it stands in a line. -/
def spaced (fields : List LineField) : List Char :=
  fields.flatMap fun field => ' ' :: field.word

theorem spaced_append (fields fields' : List LineField) :
    spaced (fields ++ fields') = spaced fields ++ spaced fields' :=
  List.flatMap_append

theorem spaced_flag (name : String) (isSet : Bool) :
    spaced (flag name isSet) = Operation.flagField name isSet := by
  cases isSet <;> simp [spaced, flag, word, Operation.flagField]

/-- The words of an optional field are what the dump writes for it. -/
theorem spaced_optional (name : String) (value? : Option (List Char)) :
    spaced (optional name value?) = Operation.optionField name value? := by
  cases value? <;>
    simp [spaced, optional, word, Operation.optionField, Operation.valueField]

end LineField

namespace Printed

/-- Names in square brackets. -/
def bracketed (names : List String) : List Char :=
  '[' :: ([',', ' '].intercalate (names.map (·.toList)) ++ [']'])

/-- The fields that only some variants have, in the order of the line. -/
def variantFields (shown : Printed) : List LineField :=
  LineField.optional "locals" (shown.localNames?.map bracketed) ++
    LineField.optional "operator" (shown.use?.map (·.operator.name.toList)) ++
    LineField.flag "lifted" (shown.use?.any (·.isLifted)) ++
    LineField.flag "checked" (shown.use?.any (·.isChecked)) ++
    LineField.flag "compare_text" (shown.use?.any (·.isCompareText)) ++
    LineField.optional "method" (shown.use?.bind fun use => use.methodName?.map (·.toList))

/-- The fields that all variants have, in the order of the line. -/
def envelopeFields (shown : Printed) : List LineField :=
  LineField.optional "type" (shown.typeText?.map (·.toList)) ++
    LineField.optional "constant" (shown.constantText?.map (·.toList)) ++
    LineField.flag "implicit" shown.isImplicit

/-- What is shown apart from variant and span, as fields in the order of the line. -/
def fields (shown : Printed) : List LineField :=
  shown.variantFields ++ shown.envelopeFields

/-- The words of the line: the variant, the fields and the span. -/
def words (shown : Printed) : List (List Char) :=
  shown.kind.name.toList :: (shown.fields.map LineField.word ++ ['@' :: shown.span.chars])

end Printed

theorem intercalate_cons (stop text : List Char) (texts : List (List Char)) :
    stop.intercalate (text :: texts) = text ++ texts.flatMap fun text => stop ++ text := by
  induction texts generalizing text with
  | nil => simp
  | cons next texts inductionHypothesis =>
    rw [List.intercalate_cons_cons, inductionHypothesis, List.flatMap_cons,
      List.append_assoc, List.append_assoc]

namespace Operation

theorem flagField_unset (name : String) : flagField name false = [] :=
  rfl

/-- The fields of a variant, word by word, are what the dump writes for them. -/
theorem spaced_variantFields (op : Operation) :
    LineField.spaced op.printed.variantFields = op.variantFields := by
  simp only [Printed.variantFields, LineField.spaced_append, LineField.spaced_flag,
    LineField.spaced_optional]
  -- only three variants have a field here
  cases op with
  | variableDeclaration _ locals _ =>
    simp [printed, localNames?, printedUse?, variantFields, localsField, Printed.bracketed,
      optionField, flagField_unset, Function.comp_def]
  | compoundAssignmentExpression _ use _ _ =>
    simp [printed, localNames?, printedUse?, variantFields, OperatorUse.printed,
      operatorFields, methodField, optionField, flagField_unset, Function.comp_def]
  | binaryOperatorExpression _ use _ _ _ =>
    simp [printed, localNames?, printedUse?, variantFields, OperatorUse.printed,
      operatorFields, methodField, optionField, Function.comp_def]
  | localInitializer | conditionalExpression | expressionStatement
  | simpleAssignmentExpression | literalExpression | invalidExpression => rfl

/-- So are the fields of an envelope, with the span at the end of the line. -/
theorem spaced_envelopeFields (op : Operation) :
    LineField.spaced op.printed.envelopeFields ++ ' ' :: '@' :: op.anchor.span.chars =
      envelopeFields op.envelope := by
  have typeChars : op.printed.typeText?.map (·.toList) = op.envelope.type?.map Ty.chars := by
    simp [printed, type?, Function.comp_def, Ty.text]
  have constantChars : op.printed.constantText?.map (·.toList) =
      op.envelope.constant?.map ConstantValue.chars := by
    simp [printed, constant?, Function.comp_def, ConstantValue.text]
  rw [Printed.envelopeFields, LineField.spaced_append, LineField.spaced_append,
    LineField.spaced_flag, LineField.spaced_optional, LineField.spaced_optional, typeChars,
    constantChars]
  rfl

/-- **A line is made from what it shows.** -/
theorem line_eq (op : Operation) : op.line = [' '].intercalate op.printed.words := by
  rw [Printed.words, intercalate_cons, List.flatMap_append, List.flatMap_map, line,
    List.append_assoc, ← spaced_envelopeFields, ← spaced_variantFields, Printed.fields,
    List.flatMap_append]
  simp [LineField.spaced, printed]

end Operation

/-! ### Reading a line -/

/-- Names that can be looked up tell apart what they name. -/
theorem eq_of_name_eq {α : Type} {name : α → String} {named? : String → Option α}
    (found : ∀ a, named? (name a) = some a) {a b : α} (same : name a = name b) : a = b := by
  have foundFirst := found a
  rw [same, found b] at foundFirst
  exact (Option.some.inj foundFirst).symm

/-- Spans with one written form are equal. -/
theorem Span.chars_injective {s s' : Span} (same : s.chars = s'.chars) : s = s' := by
  have noPoint : ∀ n, '.' ∉ Numeral.ofNat n :=
    fun n mem => absurd (Numeral.isDigit_of_mem_ofNat mem) (by decide)
  obtain ⟨starts, stops⟩ := @append_stop_inj '.' ['.'] _ _ _ _ (noPoint _) (noPoint _) same
  have sameStart := UInt64.toNat_inj.1 (Numeral.ofNat_injective starts)
  have sameStop := UInt64.toNat_inj.1 (Numeral.ofNat_injective stops)
  cases s
  cases s'
  exact Span.mk.injEq .. ▸ ⟨sameStart, sameStop⟩

namespace Printed

/-- Names in brackets can be taken out of them, unless there are none or one has a comma. -/
theorem bracketed_inj {names names' : List String} (someName : names ≠ [])
    (someName' : names' ≠ []) (noComma : ∀ name ∈ names, ',' ∉ name.toList)
    (noComma' : ∀ name ∈ names', ',' ∉ name.toList)
    (same : bracketed names = bracketed names') : names = names' := by
  have joined := List.append_cancel_right (List.cons.inj same).2
  have texts : names.map (·.toList) = names'.map (·.toList) :=
    names_inj (mt List.map_eq_nil_iff.1 someName) (mt List.map_eq_nil_iff.1 someName')
      (List.forall_mem_map.2 noComma) (List.forall_mem_map.2 noComma') joined
  exact (List.map_inj_right fun _ _ => String.toList_inj.1).1 texts

theorem map_toList_inj {text? text?' : Option String}
    (same : text?.map (·.toList) = text?'.map (·.toList)) : text? = text?' :=
  Option.map_injective (fun _ _ => String.toList_inj.1) same

section Fields

variable {shown shown' : Printed}

/-- The fields determine the operator. -/
theorem use?_eq_of_fields_eq (same : shown.fields = shown'.fields) :
    shown.use? = shown'.use? := by
  -- each detail has a field of its own, which no other field shares its name with
  have operators : shown.use?.map (·.operator.name.toList) =
      shown'.use?.map (·.operator.name.toList) := by
    simpa [fields, variantFields, envelopeFields] using
      congrArg (LineField.value? "operator") same
  have lifted : shown.use?.any (·.isLifted) = shown'.use?.any (·.isLifted) := by
    simpa [fields, variantFields, envelopeFields] using
      congrArg (LineField.isPresent "lifted") same
  have checked : shown.use?.any (·.isChecked) = shown'.use?.any (·.isChecked) := by
    simpa [fields, variantFields, envelopeFields] using
      congrArg (LineField.isPresent "checked") same
  have compareText : shown.use?.any (·.isCompareText) = shown'.use?.any (·.isCompareText) := by
    simpa [fields, variantFields, envelopeFields] using
      congrArg (LineField.isPresent "compare_text") same
  have methods : shown.use?.bind (fun use => use.methodName?.map (·.toList)) =
      shown'.use?.bind fun use => use.methodName?.map (·.toList) := by
    simpa [fields, variantFields, envelopeFields] using
      congrArg (LineField.value? "method") same
  generalize shown.use? = use?, shown'.use? = use?'
    at operators lifted checked compareText methods ⊢
  cases use? with
  | none =>
    cases use?' with
    | none => rfl
    | some use' => simp at operators
  | some use =>
    cases use?' with
    | none => simp at operators
    | some use' =>
      have sameOperator : use.operator = use'.operator :=
        eq_of_name_eq BinaryOperator.named?_name (String.toList_inj.1 (Option.some.inj operators))
      have sameMethod : use.methodName? = use'.methodName? := map_toList_inj methods
      cases use
      cases use'
      simp_all

/-- The fields determine the names of locals, unless a declaration has none or a name has
a comma. -/
theorem localNames?_eq_of_fields_eq (same : shown.fields = shown'.fields)
    (separable : ∀ names ∈ shown.localNames?, names ≠ [] ∧ ∀ name ∈ names, ',' ∉ name.toList)
    (separable' : ∀ names ∈ shown'.localNames?,
      names ≠ [] ∧ ∀ name ∈ names, ',' ∉ name.toList) :
    shown.localNames? = shown'.localNames? := by
  have locals : shown.localNames?.map bracketed = shown'.localNames?.map bracketed := by
    simpa [fields, variantFields, envelopeFields] using
      congrArg (LineField.value? "locals") same
  generalize shown.localNames? = names?, shown'.localNames? = names?'
    at locals separable separable' ⊢
  cases names? with
  | none =>
    cases names?' with
    | none => rfl
    | some names' => simp at locals
  | some names =>
    cases names?' with
    | none => simp at locals
    | some names' =>
      obtain ⟨someName, noComma⟩ := separable names rfl
      obtain ⟨someName', noComma'⟩ := separable' names' rfl
      rw [bracketed_inj someName someName' noComma noComma' (Option.some.inj locals)]

/-- The fields determine the written forms of type and constant and the implicit flag. -/
theorem envelope_eq_of_fields_eq (same : shown.fields = shown'.fields) :
    shown.typeText? = shown'.typeText? ∧ shown.constantText? = shown'.constantText? ∧
      shown.isImplicit = shown'.isImplicit := by
  have types : shown.typeText?.map (·.toList) = shown'.typeText?.map (·.toList) := by
    simpa [fields, variantFields, envelopeFields] using
      congrArg (LineField.value? "type") same
  have constants : shown.constantText?.map (·.toList) = shown'.constantText?.map (·.toList) := by
    simpa [fields, variantFields, envelopeFields] using
      congrArg (LineField.value? "constant") same
  have implicit : shown.isImplicit = shown'.isImplicit := by
    simpa [fields, variantFields, envelopeFields] using
      congrArg (LineField.isPresent "implicit") same
  exact ⟨map_toList_inj types, map_toList_inj constants, implicit⟩

end Fields

/-- The names of all fields. -/
def fieldNames : List String :=
  ["locals", "operator", "lifted", "checked", "compare_text", "method", "type", "constant",
    "implicit"]

/-- Only the names on the list occur as names of fields. -/
theorem name_mem_of_mem_fields {shown : Printed} :
    ∀ field ∈ shown.fields, field.1 ∈ fieldNames := by
  simp only [fields, variantFields, envelopeFields, List.forall_mem_append,
    LineField.forall_mem_flag, LineField.forall_mem_optional]
  simp [fieldNames]

/-- The names of fields are plain and hold no equals sign, so a value begins at the first one. -/
theorem plain_of_mem_fieldNames :
    ∀ name ∈ fieldNames, '=' ∉ name.toList ∧ AllPlain name.toList := by
  decide

/-- The fields can be read off their words. -/
theorem fields_eq_of_words {shown shown' : Printed}
    (same : shown.fields.map LineField.word = shown'.fields.map LineField.word) :
    shown.fields = shown'.fields := by
  have read : ∀ shown : Printed,
      (shown.fields.map LineField.word).map LineField.ofWord = shown.fields := by
    intro shown
    rw [List.map_map, List.map_congr_left, List.map_id]
    intro field mem
    exact LineField.ofWord_word
      (plain_of_mem_fieldNames _ (name_mem_of_mem_fields field mem)).1
  rw [← read shown, same, read shown']

end Printed

namespace Operation

variable {op op' : Operation}

/-- Names stand in a line as they are, so plain ones keep its fields sealed. -/
theorem sealed_of_mem_fields (plain : ∀ name ∈ op.printedNames, IsPlainName name) :
    ∀ field ∈ op.printed.fields, ∀ value ∈ field.2, Sealed value := by
  rw [printedNames, List.forall_mem_append, List.forall_mem_append] at plain
  obtain ⟨⟨locals, method⟩, types⟩ := plain
  have flags : ∀ name isSet, ∀ field ∈ LineField.flag name isSet,
      ∀ value ∈ field.2, Sealed value :=
    fun name isSet => LineField.forall_mem_flag.2 fun _ => by simp
  simp only [Printed.fields, Printed.variantFields, Printed.envelopeFields,
    List.forall_mem_append, LineField.forall_mem_optional, Option.mem_def, Option.some.injEq,
    forall_eq', Option.map_eq_some_iff]
  refine ⟨⟨⟨⟨⟨⟨?locals, ?operator⟩, flags _ _⟩, flags _ _⟩, flags _ _⟩, ?method⟩,
    ⟨?type, ?constant⟩, flags _ _⟩
  case locals =>
    rintro _ ⟨names, declared, rfl⟩
    have declaredHere : op.localNames? = some names := declared
    rw [declaredHere, Option.getD_some] at locals
    have inside := Sealed.intercalate
      (List.forall_mem_map.2 fun name mem => (locals name mem).allPlain.sealed)
    exact .plain (by decide) (inside.append (AllPlain.sealed (by decide)))
  case operator =>
    rintro _ ⟨use, _, rfl⟩
    exact (allPlain_operator use.operator).sealed
  case method =>
    intro value shown
    obtain ⟨use, applied, named⟩ := Option.bind_eq_some_iff.1 shown
    obtain ⟨name, given, rfl⟩ := Option.map_eq_some_iff.1 named
    have appliedHere : op.printedUse? = some use := applied
    rw [appliedHere, Option.bind_some, given] at method
    exact (method name (List.mem_singleton_self name)).allPlain.sealed
  case type =>
    rintro _ ⟨text, shown, rfl⟩
    obtain ⟨t, typed, rfl⟩ := Option.map_eq_some_iff.1 shown
    rw [typed] at types
    rw [Ty.text, String.toList_ofList]
    exact t.sealed_chars types
  case constant =>
    rintro _ ⟨text, shown, rfl⟩
    obtain ⟨constant, _, rfl⟩ := Option.map_eq_some_iff.1 shown
    rw [ConstantValue.text, String.toList_ofList]
    exact sealed_constant constant

/-- The words of a line are sealed if the names in it are plain. -/
theorem sealed_words (plain : ∀ name ∈ op.printedNames, IsPlainName name) :
    ∀ word ∈ op.printed.words, Sealed word := by
  have span : Sealed ('@' :: op.printed.span.chars) :=
    .plain (by decide) (allPlain_span op.printed.span).sealed
  rw [Printed.words, List.forall_mem_cons, List.forall_mem_append, List.forall_mem_map,
    List.forall_mem_singleton]
  refine ⟨(allPlain_kind _).sealed, fun field mem => ?_, span⟩
  have name := Printed.plain_of_mem_fieldNames _ (Printed.name_mem_of_mem_fields field mem)
  exact LineField.sealed_word name.2 (sealed_of_mem_fields plain field mem)

/-- A declaration has a local, and no plain name holds a comma. -/
theorem separable_localNames (plain : ∀ name ∈ op.printedNames, IsPlainName name) :
    ∀ names ∈ op.printed.localNames?, names ≠ [] ∧ ∀ name ∈ names, ',' ∉ name.toList := by
  intro names declared
  have declaredHere : op.localNames? = some names := declared
  constructor
  · cases op with
    | variableDeclaration _ locals _ =>
      obtain rfl := Option.some.inj declaredHere
      exact mt List.map_eq_nil_iff.1 locals.ne_nil
    | _ => contradiction
  · intro name mem comma
    have isPlain : IsPlainName name := plain name (by simp [printedNames, declaredHere, mem])
    exact absurd (isPlain.allPlain _ comma) (by decide)

/-- **What is shown can be read off the line**, as far as its names are plain. -/
theorem printed_eq_of_line_eq (plain : ∀ name ∈ op.printedNames, IsPlainName name)
    (plain' : ∀ name ∈ op'.printedNames, IsPlainName name) (same : op.line = op'.line) :
    op.printed = op'.printed := by
  rw [line_eq, line_eq] at same
  -- the first word is the variant and the last one the span; the fields are between them
  have words := words_inj (List.cons_ne_nil _ _) (List.cons_ne_nil _ _) (sealed_words plain)
    (sealed_words plain') same
  obtain ⟨kinds, others⟩ := List.cons.inj words
  obtain ⟨fieldWords, spans⟩ := List.append_inj' others rfl
  have fields := Printed.fields_eq_of_words fieldWords
  have sameSpan := Span.chars_injective (List.cons.inj (List.cons.inj spans).1).2
  have sameKind := eq_of_name_eq OperationKind.named?_name (String.toList_inj.1 kinds)
  obtain ⟨types, constants, implicit⟩ := Printed.envelope_eq_of_fields_eq fields
  have locals := Printed.localNames?_eq_of_fields_eq fields (separable_localNames plain)
    (separable_localNames plain')
  have uses := Printed.use?_eq_of_fields_eq fields
  generalize op.printed = shown, op'.printed = shown' at *
  cases shown
  cases shown'
  simp_all

end Operation

end BoundTree
