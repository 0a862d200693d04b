import BoundTree.Numeral
import BoundTree.Session

/-!
# Stores of a session

A session keeps names in a store of texts, and types, locals and methods in interners.  What
it hands out and what a handle stands for is determined by what is documented of these
stores, whichever they are.  The tables of a session are such stores.

**Types are read level by level.**  Under the key of a type, one level is stored.  To read the
whole type is to read the types that this level mentions in the same way.
`Stores.Contents.read?` does so to a given depth.  Reading comes to an end when some depth
suffices.

## Main definitions

* `Handle` — a key of any sort
* `SessionCall` — a request; `CommonType` — the types that have a constructor of their own
* `Entry` — what is stored on a request; `Entry.mentions` — what it mentions
* `Stores`, `Stores.Contents`, `Stores.perform` — the stores, their contents, and what a
  request does
* `Stores.IsLawful` — what is relied on
* `TypeForm.treeFrom?`, `TypeForm.charsFrom?` — one level of reading
* `Stores.Contents.tree?`, `Stores.Contents.display?` — the tree of a type and its written form
* `Session.stores`, `Session.contents` — the tables of a session as stores
-/

namespace BoundTree

/-! ### Requests -/

/-- Something that a session hands out. -/
inductive Handle where
  | name (name : Name)
  | type (type : TypeKey)
  | declared (declared : LocalKey)
  | method (method : MethodKey)
  deriving DecidableEq

/-- A type that has a constructor of its own. -/
inductive CommonType where
  | int32
  | int64
  | boolean
  | string
  | error

/-- The form of a type that has a constructor of its own. -/
def CommonType.form : CommonType → TypeForm
  | int32 => .integral 32 true
  | int64 => .integral 64 true
  | boolean => .boolean
  | string => .string
  | error => .error

/-- Something that a session is asked for. -/
inductive SessionCall where
  /-- The name of a text. -/
  | name (request : NameRequest)
  /-- A type of some form. -/
  | type (form : TypeForm)
  /-- A type that has a constructor of its own. -/
  | commonType (common : CommonType)
  /-- A local of some form. -/
  | declared (form : LocalForm)
  /-- A method of some form. -/
  | method (form : MethodForm)

namespace TypeForm

/-- The name that a form mentions. -/
def name? : TypeForm → Option Name
  | named name _ => some name
  | _ => none

/-- The types that a form mentions. -/
def parts : TypeForm → List TypeKey
  | named _ arguments => arguments
  | nullable underlying => [underlying]
  | _ => []

end TypeForm

/-- Something that a session stores. -/
inductive Entry where
  | text (text : String)
  | type (form : TypeForm)
  | declared (form : LocalForm)
  | method (form : MethodForm)

/-- What an entry mentions. -/
def Entry.mentions : Entry → List Handle
  | text _ => []
  | type form => form.name?.toList.map .name ++ form.parts.map .type
  | declared form => [.name form.name, .type form.type]
  | method form =>
    .name form.name :: .type form.containing :: .type form.result :: form.parameters.map .type

/-- What is stored on a request. -/
def SessionCall.entry : SessionCall → Entry
  | name request => .text request.text
  | type form => .type form
  | commonType common => .type common.form
  | declared form => .declared form
  | method form => .method form

/-! ### Stores -/

/-- The stores that a session keeps things in. -/
structure Stores where
  Names : Type
  Types : Type
  Locals : Type
  Methods : Type
  names : TextStore Names Name
  types : Interner Types TypeKey TypeForm
  locals : Interner Locals LocalKey LocalForm
  methods : Interner Methods MethodKey MethodForm

namespace Stores

/-- All stores do what is documented of them. -/
structure IsLawful (stores : Stores) : Prop where
  names : stores.names.IsLawful
  types : stores.types.IsLawful
  locals : stores.locals.IsLawful
  methods : stores.methods.IsLawful

/-- What the stores hold. -/
structure Contents (stores : Stores) where
  names : stores.Names
  types : stores.Types
  locals : stores.Locals
  methods : stores.Methods

variable (stores : Stores)

/-- Stores that hold nothing. -/
def empty : stores.Contents :=
  ⟨stores.names.empty, stores.types.empty, stores.locals.empty, stores.methods.empty⟩

/-- What is handed out on a request, and the contents afterwards. -/
def perform (contents : stores.Contents) : SessionCall → Handle × stores.Contents
  | .name request =>
    let (name, names) := stores.names.request contents.names request
    (.name name, { contents with names })
  | .type form =>
    let (type, types) := stores.types.intern contents.types form
    (.type type, { contents with types })
  | .commonType common =>
    let (type, types) := stores.types.intern contents.types common.form
    (.type type, { contents with types })
  | .declared form =>
    let (declared, locals) := stores.locals.intern contents.locals form
    (.declared declared, { contents with locals })
  | .method form =>
    let (method, methods) := stores.methods.intern contents.methods form
    (.method method, { contents with methods })

variable {stores} (contents : stores.Contents)

/-- The text of a name. -/
def Contents.text? (name : Name) : Option String :=
  stores.names.text? contents.names name

/-- The form of a type. -/
def Contents.typeForm? (type : TypeKey) : Option TypeForm :=
  stores.types.item? contents.types type

/-- The form of a local. -/
def Contents.localForm? (declared : LocalKey) : Option LocalForm :=
  stores.locals.item? contents.locals declared

/-- The form of a method. -/
def Contents.methodForm? (method : MethodKey) : Option MethodForm :=
  stores.methods.item? contents.methods method

/-- What is stored under a handle. -/
def Contents.held? : Handle → Option Entry
  | .name name => (contents.text? name).map .text
  | .type type => (contents.typeForm? type).map .type
  | .declared declared => (contents.localForm? declared).map .declared
  | .method method => (contents.methodForm? method).map .method

end Stores

/-! ### Reading -/

namespace TypeForm

/-- The type of a form, given the texts of names and the types that it mentions. -/
def treeFrom? (texts : Name → Option String) (read : TypeKey → Option Ty) :
    TypeForm → Option Ty
  | integral bits signed => some (.integral bits signed)
  | float bits => some (.float bits)
  | decimal => some .decimal
  | boolean => some .boolean
  | char => some .char
  | string => some .string
  | object => some .object
  | named name arguments => do
    let name ← texts name
    let arguments ← arguments.mapM read
    return .named name arguments
  | nullable underlying => (read underlying).map .nullable
  | error => some .error

/-- The written form of a form, given the texts of names and the written forms of the types
that it mentions. -/
def charsFrom? (texts : Name → Option String) (read : TypeKey → Option (List Char)) :
    TypeForm → Option (List Char)
  | integral bits signed =>
    some ((if signed then "Int" else "UInt").toList ++ Numeral.ofNat bits.toNat)
  | float bits => some (if bits = 32 then "Single" else "Double").toList
  | decimal => some "Decimal".toList
  | boolean => some "Boolean".toList
  | char => some "Char".toList
  | string => some "String".toList
  | object => some "Object".toList
  | named name [] => do
    let name ← texts name
    return name.toList
  | named name (argument :: arguments) => do
    let name ← texts name
    let arguments ← (argument :: arguments).mapM read
    return name.toList ++ '<' :: ([',', ' '].intercalate arguments ++ ['>'])
  | nullable underlying => (read underlying).map (· ++ ['?'])
  | error => some ['?']

end TypeForm

namespace Stores.Contents

variable {stores : Stores} (contents : stores.Contents)

/-- What is read of a type to a given depth: from its form, and from what is read of the types
that the form mentions to one level less. -/
def read? {α : Type} (level : (TypeKey → Option α) → TypeForm → Option α) :
    Nat → TypeKey → Option α
  | 0, _ => none
  | depth + 1, type => (contents.typeForm? type).bind (level (read? level depth))

/-- The type that is read to a given depth. -/
def tree? : Nat → TypeKey → Option Ty :=
  contents.read? (TypeForm.treeFrom? contents.text?)

/-- The written form that is read to a given depth. -/
def display? : Nat → TypeKey → Option (List Char) :=
  contents.read? (TypeForm.charsFrom? contents.text?)

end Stores.Contents

/-! ### The tables of a session -/

namespace Session

/-- The tables of sessions as stores. -/
abbrev stores : Stores where
  Names := NameTable
  Types := InternTable TypeForm
  Locals := InternTable LocalForm
  Methods := InternTable MethodForm
  names := NameTable.store
  types := InternTable.interner TypeKey.mk TypeKey.key
  locals := InternTable.interner LocalKey.mk LocalKey.key
  methods := InternTable.interner MethodKey.mk MethodKey.key

/-- What the tables of a session hold. -/
def contents (session : Session) : stores.Contents :=
  ⟨session.names, session.types, session.locals, session.methods⟩

/-- What a session hands out on a request, and the session afterwards. -/
def perform (session : Session) : SessionCall → Handle × Session
  | .name request =>
    let (name, names) := NameTable.store.request session.names request
    (.name name, { session with names })
  | .type form => (session.makeType form).map .type id
  | .commonType common => (session.makeType common.form).map .type id
  | .declared form => (session.makeLocal form).map .declared id
  | .method form => (session.makeMethod form).map .method id

end Session

end BoundTree
