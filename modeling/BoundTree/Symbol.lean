import BoundTree.Ty

/-!
# Locals and methods

The declared things that operations refer to.  Both are compared by content.

## Main definitions

* `Local` — a local variable or constant of a method body
* `Method` — a method, used for user-defined operators
* `DeclaredLocals` — the locals of one declaration, at least one
-/

namespace BoundTree

/-- A local declared in a method body. -/
structure Local where
  name : String
  type : Ty
  isConst : Bool
  deriving DecidableEq

/-- A method that implements an operator. -/
structure Method where
  name : String
  containing : Ty
  parameters : List Ty
  result : Ty
  deriving DecidableEq

/-- What makes the locals of a declaration unusable. -/
inductive DeclarationError where
  /-- There are no locals. -/
  | empty
  deriving DecidableEq

/-- The explanation of an error. -/
def DeclarationError.message : DeclarationError → String
  | empty => "a variable declaration must declare at least one local"

/-- The locals that one declaration introduces, in order.  There is at least one. -/
@[ext]
structure DeclaredLocals where
  toList : List Local
  ne_nil : toList ≠ []
  deriving DecidableEq

namespace DeclaredLocals

/-- A single local as the locals of a declaration. -/
def single (declared : Local) : DeclaredLocals :=
  ⟨[declared], List.cons_ne_nil _ _⟩

/-- A list of locals as the locals of a declaration. -/
def ofList (locals : List Local) : Except DeclarationError DeclaredLocals :=
  if h : locals = [] then .error .empty else .ok ⟨locals, h⟩

/-- The first local of a declaration. -/
def first (locals : DeclaredLocals) : Local :=
  locals.toList.head locals.ne_nil

/-- The number of locals of a declaration. -/
def count (locals : DeclaredLocals) : Nat :=
  locals.toList.length

/-- Only the empty list is refused. -/
theorem ofList_eq_error_iff (locals : List Local) :
    ofList locals = .error .empty ↔ locals = [] := by
  unfold ofList
  split <;> simp_all

theorem ofList_toList (locals : DeclaredLocals) : ofList locals.toList = .ok locals := by
  simp [ofList, locals.ne_nil]

end DeclaredLocals

end BoundTree
