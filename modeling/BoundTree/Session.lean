import BoundTree.Model
import BoundTree.Name
import BoundTree.Symbol

/-!
# Sessions

A session hands out keys for types, locals and methods.  One level of a type is
stored at a time: the stored form of a type mentions names and the keys of types
made before it.

**Keys stand for trees.**  Since a form mentions earlier keys only, one pass over
the stored forms, oldest first, unfolds every key to a finite type.  Making a type
that was made before gives the same key, so equal keys mean equal trees.

## Main definitions

* `Session` — the tables of a session
* `TypeForm`, `LocalForm`, `MethodForm` — what is stored under one key
* `Session.makeType`, `Session.makeLocal`, `Session.makeMethod` — the key of a form
* `Session.type?`, `Session.local?`, `Session.method?` — what a key stands for
* `Session.internType`, `Session.internLocal`, `Session.internMethod` — the key of a tree
* `Session.openModel` — a new semantic model
-/

namespace BoundTree

/-- The key of a type. -/
structure TypeKey where
  key : Nat
  deriving DecidableEq

/-- The key of a local. -/
structure LocalKey where
  key : Nat
  deriving DecidableEq

/-- The key of a method. -/
structure MethodKey where
  key : Nat
  deriving DecidableEq

/-- One level of a type. -/
inductive TypeForm where
  | integral (bits : UInt8) (signed : Bool)
  | float (bits : UInt8)
  | decimal
  | boolean
  | char
  | string
  | object
  | named (name : Name) (arguments : List TypeKey)
  | nullable (underlying : TypeKey)
  | error
  deriving DecidableEq

/-- The content of a local. -/
structure LocalForm where
  name : Name
  type : TypeKey
  isConst : Bool
  deriving DecidableEq

/-- The content of a method. -/
structure MethodForm where
  name : Name
  containing : TypeKey
  parameters : List TypeKey
  result : TypeKey
  deriving DecidableEq

/-- The tables of a session and the paths of the models opened in it. -/
structure Session where
  names : NameTable
  types : InternTable TypeForm
  locals : InternTable LocalForm
  methods : InternTable MethodForm
  models : List String

namespace Session

/-- The session in which nothing has been made. -/
def empty : Session :=
  ⟨.empty, .empty, .empty, .empty, []⟩

/-! ### Making keys -/

/-- The name of a text. -/
def makeName (session : Session) (lifetime : Lifetime) (text : String) : Name × Session :=
  let (name, names) := session.names.intern lifetime text
  (name, { session with names })

/-- The key of a type of a given form. -/
def makeType (session : Session) (form : TypeForm) : TypeKey × Session :=
  let (key, types) := session.types.intern form
  (⟨key⟩, { session with types })

/-- The key of a local of a given form. -/
def makeLocal (session : Session) (form : LocalForm) : LocalKey × Session :=
  let (key, locals) := session.locals.intern form
  (⟨key⟩, { session with locals })

/-- The key of a method of a given form. -/
def makeMethod (session : Session) (form : MethodForm) : MethodKey × Session :=
  let (key, methods) := session.methods.intern form
  (⟨key⟩, { session with methods })

/-- A new model for a document. -/
def openModel (session : Session) (path : String) : Model × Session :=
  (⟨session.models.length, path⟩, { session with models := session.models ++ [path] })

/-! ### What keys stand for -/

end Session

/-- The type of a form, given the names and the types made before it. -/
def TypeForm.tree? (names : NameTable) (earlier : List (Option Ty)) :
    TypeForm → Option Ty
  | integral bits signed => some (.integral bits signed)
  | float bits => some (.float bits)
  | decimal => some .decimal
  | boolean => some .boolean
  | char => some .char
  | string => some .string
  | object => some .object
  | named name arguments => do
    let name ← names.text? name
    let arguments ← arguments.mapM fun argument => earlier[argument.key]?.join
    return .named name arguments
  | nullable underlying => earlier[underlying.key]?.join.map .nullable
  | error => some .error

namespace Session

/-- The types of all keys, oldest first. -/
def unfolded (session : Session) : List (Option Ty) :=
  session.types.items.foldl
    (fun earlier form => earlier ++ [form.tree? session.names earlier]) []

/-- The type that a key stands for. -/
def type? (session : Session) (type : TypeKey) : Option Ty :=
  session.unfolded[type.key]?.join

/-- The local that a key stands for. -/
def local? (session : Session) (declared : LocalKey) : Option Local := do
  let form ← session.locals.get? declared.key
  return ⟨← session.names.text? form.name, ← session.type? form.type, form.isConst⟩

/-- The method that a key stands for. -/
def method? (session : Session) (method : MethodKey) : Option Method := do
  let form ← session.methods.get? method.key
  return {
    name := ← session.names.text? form.name
    containing := ← session.type? form.containing
    parameters := ← form.parameters.mapM session.type?
    result := ← session.type? form.result }

/-! ### Interning trees -/

mutual

/-- The key of a type, its parts made first. -/
def internType (session : Session) : Ty → TypeKey × Session
  | .integral bits signed => session.makeType (.integral bits signed)
  | .float bits => session.makeType (.float bits)
  | .decimal => session.makeType .decimal
  | .boolean => session.makeType .boolean
  | .char => session.makeType .char
  | .string => session.makeType .string
  | .object => session.makeType .object
  | .named name arguments =>
    let (name, session) := session.makeName .run name
    let (arguments, session) := internTypes session arguments
    session.makeType (.named name arguments)
  | .nullable underlying =>
    let (underlying, session) := internType session underlying
    session.makeType (.nullable underlying)
  | .error => session.makeType .error

/-- The keys of a list of types, made in order. -/
def internTypes (session : Session) : List Ty → List TypeKey × Session
  | [] => ([], session)
  | type :: types =>
    let (type, session) := internType session type
    let (types, session) := internTypes session types
    (type :: types, session)

end

/-- The key of a local. -/
def internLocal (session : Session) (declared : Local) : LocalKey × Session :=
  let (name, session) := session.makeName .run declared.name
  let (type, session) := session.internType declared.type
  session.makeLocal ⟨name, type, declared.isConst⟩

/-- The key of a method. -/
def internMethod (session : Session) (method : Method) : MethodKey × Session :=
  let (name, session) := session.makeName .run method.name
  let (containing, session) := session.internType method.containing
  let (parameters, session) := session.internTypes method.parameters
  let (result, session) := session.internType method.result
  session.makeMethod ⟨name, containing, parameters, result⟩

end Session

end BoundTree
