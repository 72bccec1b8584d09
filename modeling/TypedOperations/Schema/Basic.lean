import TypedOperations.Entries
import TypedOperations.Language.Document
import TypedOperations.Remark
import TypedOperations.Schema.PartFault

/-!
# Schemas

The types, root types and directives that documents are written against. Types stand in the order of their definitions;
the object types an interface can be are found in that order, and those of a union are its members as listed.
-/

namespace TypedOperations

/-- The kinds of named types; a name that no schema declares has a kind of its own. -/
inductive TypeKind where
  | scalar
  | object
  | interface
  | union
  | enum
  | inputObject
  | undeclared
deriving DecidableEq, Repr, Inhabited

namespace TypeKind

/-- Values of the type have fields that can be selected. -/
def isComposite : TypeKind → Bool
  | .object => true
  | .interface => true
  | .union => true
  | _ => false

/-- Values of the type are scalars or enum values. -/
def isLeaf : TypeKind → Bool
  | .scalar => true
  | .enum => true
  | _ => false

/-- The type can be given to an argument. -/
def isInput : TypeKind → Bool
  | .scalar => true
  | .enum => true
  | .inputObject => true
  | _ => false

/-- The type can be the type of a field. -/
def isOutput : TypeKind → Bool
  | .inputObject => false
  | .undeclared => false
  | _ => true

end TypeKind

/-- A named type as far as a reader of a type reference needs it. -/
structure NamedType where
  name : String
  kind : TypeKind
deriving DecidableEq, Repr, Inhabited

/-- A type reference whose named type is resolved. -/
abbrev ResolvedType := TypeRef NamedType

/-- The reference to a type that could not be resolved. -/
def ResolvedType.undeclared : ResolvedType :=
  .named ⟨"None", .undeclared⟩ false

namespace Schema

/-- An argument, or a field of an input object. -/
structure InputValue where
  name : String
  description : Option Remark
  type : TypeRef String
  fallback : Option Language.Literal
  deprecated : Bool
deriving Inhabited

/-- It must be given: it excludes null and has no default. -/
def InputValue.isNeeded (v : InputValue) : Bool :=
  v.type.isRequired && v.fallback.isNone

/-- A field of an object or interface type. -/
structure FieldDef where
  name : String
  description : Option Remark
  arguments : List InputValue
  type : TypeRef String
  deprecated : Bool := false
deriving Inhabited

/-- A value of an enum type. -/
structure EnumValue where
  name : String
  description : Option Remark
deriving Inhabited

/-- What a type consists of. -/
inductive TypeBody where
  | scalar
  | object (interfaces : List String) (fields : List FieldDef)
  | interface (interfaces : List String) (fields : List FieldDef)
  | union (members : List String)
  /-- The values of an enum, or why they cannot be made, which comes to light when they are asked for. -/
  | enum (values : Except ValuesFault (List EnumValue))
  | inputObject (fields : List InputValue) (oneOf : Bool)
deriving Inhabited

/-- A type of the schema. -/
structure TypeDef where
  name : String
  description : Option Remark
  body : TypeBody
deriving Inhabited

/-- A directive of the schema. -/
structure DirectiveDef where
  name : String
  arguments : List InputValue
  locations : List Language.Location
  repeatable : Bool
deriving Inhabited

namespace TypeDef

/-- The kind of a type. -/
def kind (t : TypeDef) : TypeKind :=
  match t.body with
  | .scalar => .scalar
  | .object .. => .object
  | .interface .. => .interface
  | .union _ => .union
  | .enum _ => .enum
  | .inputObject .. => .inputObject

/-- The fields that can be selected on a type. -/
def fields (t : TypeDef) : List FieldDef :=
  match t.body with
  | .object _ fs => fs
  | .interface _ fs => fs
  | _ => []

/-- The interfaces a type implements. -/
def interfaces (t : TypeDef) : List String :=
  match t.body with
  | .object is _ => is
  | .interface is _ => is
  | _ => []

/-- The fields of an input object type. -/
def inputFields (t : TypeDef) : List InputValue :=
  match t.body with
  | .inputObject fs _ => fs
  | _ => []

/-- The values of an enum type; none if they cannot be made. -/
def values (t : TypeDef) : List EnumValue :=
  match t.body with
  | .enum (.ok vs) => vs
  | _ => []

/-- The type as it is referred to. -/
def ref (t : TypeDef) : NamedType := ⟨t.name, t.kind⟩

end TypeDef

end Schema

/-- A schema. -/
structure Schema where
  types : List Schema.TypeDef
  query : Option String
  mutation : Option String
  subscription : Option String
  directives : List Schema.DirectiveDef
deriving Inhabited

namespace Schema

/-- The names of the scalar types every schema may use. -/
def builtInScalars : List String := ["String", "Int", "Float", "Boolean", "ID"]

/-- The type of a name. -/
def type? (s : Schema) (name : String) : Option TypeDef :=
  s.types.find? (·.name == name)

/-- The kind of a name. -/
def kindOf (s : Schema) (name : String) : TypeKind :=
  match s.type? name with
  | some t => t.kind
  | none => .undeclared

/-- The root type of a kind of operation. -/
def root (s : Schema) : Language.OperationKind → Option String
  | .query => s.query
  | .mutation => s.mutation
  | .subscription => s.subscription

/-- The directive of a name. -/
def directive? (s : Schema) (name : String) : Option DirectiveDef :=
  s.directives.find? (·.name == name)

/-- The directive of a name; of several the one that is listed last. -/
def lastDirective? (s : Schema) (name : String) : Option DirectiveDef :=
  s.directives.reverse.find? (·.name == name)

/-- A name as it is referred to. -/
def named (s : Schema) (name : String) : NamedType :=
  ⟨name, s.kindOf name⟩

/-- A type reference of the schema itself, with the kind of its named type. -/
def resolve (s : Schema) (t : TypeRef String) : ResolvedType :=
  t.map s.named

/-- A type reference of a document, if the schema has its named type. -/
def resolve? (s : Schema) (t : TypeRef String) : Option ResolvedType :=
  t.mapM? fun name => (s.type? name).map TypeDef.ref

/-- The object types that implement an interface, in type order, each as often as it says so. -/
def implementers (s : Schema) (interface : String) : List String :=
  (s.types.filter (·.kind == .object)).flatMap fun t => (t.interfaces.filter (· == interface)).map fun _ => t.name

/-- The object types that a value of the type can have. -/
def possibleTypes (s : Schema) (name : String) : List String :=
  match s.type? name with
  | some t =>
    match t.body with
    | .interface .. => s.implementers name
    | .union members => members
    | _ => [name]
  | none => [name]

end Schema

end TypedOperations
