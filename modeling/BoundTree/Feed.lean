import BoundTree.Operation.Equality

/-!
# What is fed to a hash function

A hash set finds an item by a digest first and by equality second.  The digest is
computed from a sequence of values that the item feeds to a hash function: a tag for
each choice, the length of each list, and the fields in order.  Floating-point
constants feed their bit pattern, as their equality asks.

**Handles are fed in one piece.**  Models, types, locals and methods are stored once
and known by a handle.  Equal things have equal handles and different things have
different ones, so the thing itself stands for its handle in the sequence.

## Main definitions

* `Shared` — a thing that is known by a handle
* `FeedItem` — a number, a text or a handle
* `ConstantValue.feed`, `Operation.feed` — the sequences of constants and operations
-/

namespace BoundTree

/-- A thing that operations share and know by a handle. -/
inductive Shared where
  | model (model : Model)
  | type (type : Ty)
  | declared (declared : Local)
  | method (method : Method)
  deriving DecidableEq

/-- A value that is given to a hash function in one piece. -/
inductive FeedItem where
  | word (value : Int)
  | text (value : String)
  | handle (thing : Shared)
  deriving DecidableEq

namespace FeedItem

/-- The sequence of a flag. -/
def ofBool (value : Bool) : List FeedItem :=
  [word (if value then 1 else 0)]

/-- The sequence of an optional value: a tag, and the value if there is one. -/
def ofOption {α : Type} (feed : α → List FeedItem) : Option α → List FeedItem
  | none => [word 0]
  | some value => word 1 :: feed value

/-- The sequence of a list: its length, then its items. -/
def ofList {α : Type} (feed : α → List FeedItem) (values : List α) : List FeedItem :=
  word values.length :: values.flatMap feed

end FeedItem

open FeedItem

/-- The tag of a constant: the place of its variant among all variants, the eight widths of
integers each being one. -/
def ConstantValue.tag : ConstantValue → Nat
  | null => 0
  | boolean _ => 1
  | char _ => 2
  | integral value => 3 + IntegralKind.all.idxOf value.kind
  | single _ => 11
  | double _ => 12
  | decimal _ => 13
  | string _ => 14

/-- What a constant feeds behind its tag: its value. -/
def ConstantValue.valueFeed : ConstantValue → List FeedItem
  | null => []
  | boolean value => ofBool value
  | char value => [.word value.toNat]
  | integral value => [.word value.value]
  | single bits => [.word bits.toNat]
  | double bits => [.word bits.toNat]
  | decimal value => [.word value.mantissa, .word value.scale]
  | string value => [.text value]

/-- The sequence of a constant: its tag, then its value. -/
def ConstantValue.feed (constant : ConstantValue) : List FeedItem :=
  .word constant.tag :: constant.valueFeed

/-- The sequence of a span: its ends. -/
def Span.feed (s : Span) : List FeedItem :=
  [.word s.start.toNat, .word s.stop.toNat]

/-- The sequence of an anchor: kind, span, and the chain above it. -/
def Anchor.feed : Anchor → List FeedItem
  | root kind span => .text kind :: (span.feed ++ [.word 0])
  | child parent kind span => .text kind :: (span.feed ++ .word 1 :: parent.feed)

/-- The sequence of a model. -/
def Model.feed (model : Model) : List FeedItem :=
  [.handle (.model model)]

/-- The sequence of a type. -/
def Ty.feed (type : Ty) : List FeedItem :=
  [.handle (.type type)]

/-- The sequence of a local. -/
def Local.feed (declared : Local) : List FeedItem :=
  [.handle (.declared declared)]

/-- The sequence of a method. -/
def Method.feed (method : Method) : List FeedItem :=
  [.handle (.method method)]

/-- The sequence of an envelope. -/
def Envelope.feed (e : Envelope) : List FeedItem :=
  e.model.feed ++ e.anchor.feed ++ ofOption Ty.feed e.type? ++
    ofOption ConstantValue.feed e.constant? ++ ofBool e.isImplicit

/-- The sequence of an operator: its tag. -/
def BinaryOperator.feed (operator : BinaryOperator) : List FeedItem :=
  [.word (BinaryOperator.all.idxOf operator : Nat)]

namespace Operation

/-- What an operation feeds between its envelope and its children. -/
def feedAhead : Operation → List FeedItem
  | variableDeclaration _ locals initializer =>
    ofList Local.feed locals.toList ++ ofBool initializer.isSome
  | compoundAssignmentExpression _ use _ _ =>
    use.operator.feed ++ ofBool use.isLifted ++ ofBool use.isChecked
  | binaryOperatorExpression _ use _ _ _ => use.operator.feed
  | invalidExpression _ salvaged => [.word salvaged.length]
  | _ => []

/-- What an operation feeds behind its children. -/
def feedBehind : Operation → List FeedItem
  | compoundAssignmentExpression _ use _ _ =>
    ofBool use.usesMethod ++ ofOption Method.feed use.method?
  | binaryOperatorExpression _ use isCompareText _ _ =>
    ofBool use.isLifted ++ ofBool use.isChecked ++ ofBool isCompareText ++
      ofBool use.usesMethod ++ ofOption Method.feed use.method?
  | _ => []

/-- The sequence of an operation: the tag of its variant, its envelope, and what the
variant holds in the order of its fields, the children among them. -/
def feed : Operation → List FeedItem :=
  fold fun op below =>
    .word (OperationKind.all.idxOf op.kind : Nat) ::
      (op.envelope.feed ++ op.feedAhead ++ below.flatten ++ op.feedBehind)

/-- The sequence of an operation in terms of the sequences of its children. -/
theorem feed_eq (op : Operation) :
    op.feed = .word (OperationKind.all.idxOf op.kind : Nat) ::
      (op.envelope.feed ++ op.feedAhead ++ op.children.flatMap feed ++ op.feedBehind) := by
  rw [feed, fold_eq, ← List.flatMap_def]

end Operation

end BoundTree
