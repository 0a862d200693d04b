/-!
# Binary operators

The operators that a binder resolves.  A compound assignment such as `x += 1`
carries the operator that it applies, here `add`.

## Main definitions

* `BinaryOperator` — the twenty-four operators
* `BinaryOperator.name`, `BinaryOperator.named?` — their names and the way back
* `BinaryOperator.token` — the usual spelling in source text
* `BinaryOperator.isComparison`, `BinaryOperator.isShortCircuit`
-/

namespace BoundTree

/-- A binary operator, as resolved by the binder. -/
inductive BinaryOperator where
  | add
  | subtract
  | multiply
  | divide
  | integerDivide
  | remainder
  | power
  | leftShift
  | rightShift
  | and
  | or
  | exclusiveOr
  | conditionalAnd
  | conditionalOr
  | concatenate
  | equals
  | objectValueEquals
  | notEquals
  | objectValueNotEquals
  | lessThan
  | lessThanOrEqual
  | greaterThanOrEqual
  | greaterThan
  | like
  deriving DecidableEq

namespace BinaryOperator

/-- All operators, grouped as arithmetic, shifts, logic, strings and comparisons. -/
def all : List BinaryOperator :=
  [add, subtract, multiply, divide, integerDivide, remainder, power,
    leftShift, rightShift,
    and, or, exclusiveOr, conditionalAnd, conditionalOr,
    concatenate,
    equals, objectValueEquals, notEquals, objectValueNotEquals, lessThan, lessThanOrEqual,
    greaterThanOrEqual, greaterThan, like]

/-- The name under which an operator is written in dumps and stored forms. -/
def name : BinaryOperator → String
  | add => "Add"
  | subtract => "Subtract"
  | multiply => "Multiply"
  | divide => "Divide"
  | integerDivide => "IntegerDivide"
  | remainder => "Remainder"
  | power => "Power"
  | leftShift => "LeftShift"
  | rightShift => "RightShift"
  | and => "And"
  | or => "Or"
  | exclusiveOr => "ExclusiveOr"
  | conditionalAnd => "ConditionalAnd"
  | conditionalOr => "ConditionalOr"
  | concatenate => "Concatenate"
  | equals => "Equals"
  | objectValueEquals => "ObjectValueEquals"
  | notEquals => "NotEquals"
  | objectValueNotEquals => "ObjectValueNotEquals"
  | lessThan => "LessThan"
  | lessThanOrEqual => "LessThanOrEqual"
  | greaterThanOrEqual => "GreaterThanOrEqual"
  | greaterThan => "GreaterThan"
  | like => "Like"

/-- The operator with a given name. -/
def named? (name : String) : Option BinaryOperator :=
  all.find? fun operator => operator.name == name

/-- The source token that an operator is usually spelled with.  Two operators
may share a token. -/
def token : BinaryOperator → String
  | add => "+"
  | subtract => "-"
  | multiply => "*"
  | divide => "/"
  | integerDivide => "\\"
  | remainder => "%"
  | power => "^"
  | leftShift => "<<"
  | rightShift => ">>"
  | and => "&"
  | or => "|"
  | exclusiveOr => "xor"
  | conditionalAnd => "&&"
  | conditionalOr => "||"
  | concatenate => "&"
  | equals => "=="
  | objectValueEquals => "Is"
  | notEquals => "!="
  | objectValueNotEquals => "IsNot"
  | lessThan => "<"
  | lessThanOrEqual => "<="
  | greaterThanOrEqual => ">="
  | greaterThan => ">"
  | like => "Like"

/-- Whether the operator gives a truth value by comparing its operands. -/
def isComparison : BinaryOperator → Bool
  | equals | objectValueEquals | notEquals | objectValueNotEquals | lessThan
  | lessThanOrEqual | greaterThanOrEqual | greaterThan | like => true
  | _ => false

/-- Whether the right operand is evaluated only when the left one does not
decide the result. -/
def isShortCircuit : BinaryOperator → Bool
  | conditionalAnd | conditionalOr => true
  | _ => false

/-- No operator is missing on the list. -/
theorem mem_all (operator : BinaryOperator) : operator ∈ all := by
  cases operator <;> decide

theorem named?_name (operator : BinaryOperator) : named? operator.name = some operator := by
  cases operator <;> decide

end BinaryOperator

end BoundTree
