import BoundTree.Operation.Basic

/-!
# Dumps

The text of an operation tree: one line for each operation, a child two spaces
deeper than its parent and below it.  A line names the variant, then the details of
the variant, then the type, the constant and the implicit flag where there are any,
and last the span.

Names stand in a line as they are, so a name that holds a line feed breaks it.

## Main definitions

* `Operation.line` — the line of one operation without its indentation
* `Operation.lines` — the lines of a tree from a given depth on
* `Operation.dump` — the whole text
-/

namespace BoundTree

namespace Operation

/-! ### Fields of a line -/

/-- A word that is present only when a flag is set. -/
def flagField (name : String) (isSet : Bool) : List Char :=
  if isSet then ' ' :: name.toList else []

/-- A named field. -/
def valueField (name : String) (value : List Char) : List Char :=
  ' ' :: (name.toList ++ '=' :: value)

/-- A named field that is present only with a value. -/
def optionField (name : String) : Option (List Char) → List Char
  | some value => valueField name value
  | none => []

/-- The field of the declared locals, by name. -/
def localsField (locals : DeclaredLocals) : List Char :=
  valueField "locals"
    ('[' :: ([',', ' '].intercalate (locals.toList.map (·.name.toList)) ++ [']']))

/-- The field of the method that implements an operator, by name. -/
def methodField (use : OperatorUse) : List Char :=
  optionField "method" (use.method?.map (·.name.toList))

/-- The fields of an operator that every use of it has. -/
def operatorFields (use : OperatorUse) : List Char :=
  valueField "operator" use.operator.name.toList ++
    flagField "lifted" use.isLifted ++ flagField "checked" use.isChecked

/-- The fields that only the variant of an operation has. -/
def variantFields : Operation → List Char
  | variableDeclaration _ locals _ => localsField locals
  | compoundAssignmentExpression _ use _ _ => operatorFields use ++ methodField use
  | binaryOperatorExpression _ use isCompareText _ _ =>
    operatorFields use ++ flagField "compare_text" isCompareText ++ methodField use
  | _ => []

/-- The fields that come from the envelope of an operation. -/
def envelopeFields (e : Envelope) : List Char :=
  optionField "type" (e.type?.map Ty.chars) ++
    optionField "constant" (e.constant?.map ConstantValue.chars) ++
    flagField "implicit" e.isImplicit ++
    ' ' :: '@' :: e.anchor.span.chars

/-- The line of an operation without its indentation. -/
def line (op : Operation) : List Char :=
  op.kind.name.toList ++ op.variantFields ++ envelopeFields op.envelope

/-! ### Lines of a tree -/

/-- A line at a depth below the root. -/
def indented (depth : Nat) (cs : List Char) : List Char :=
  List.replicate (2 * depth) ' ' ++ cs

/-- The lines of a tree whose root stands at a given depth. -/
def lines : Operation → Nat → List (List Char) :=
  fold fun op below depth =>
    indented depth op.line :: below.flatMap fun linesFrom => linesFrom (depth + 1)

/-- The entries of a tree are that of its root and those of the children, one step deeper. -/
theorem lines_eq (op : Operation) (depth : Nat) :
    op.lines depth =
      indented depth op.line :: op.children.flatMap fun child => child.lines (depth + 1) := by
  rw [lines, fold_eq]
  simp [List.flatMap_map]

/-- The dump of an operation and everything below it: its lines with a line feed
between them. -/
def dump (op : Operation) : String :=
  String.ofList (['\n'].intercalate (op.lines 0))

end Operation

end BoundTree
