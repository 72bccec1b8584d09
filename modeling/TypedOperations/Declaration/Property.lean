import TypedOperations.Declaration.TypeExpression
import TypedOperations.Naming.Declared
import TypedOperations.Selection.Basic

/-!
# Properties

What a generated class needs to know of a field, a type condition, a fragment or a variable to declare an attribute or a
parameter for it: the name it has in the class, the name it has on the wire, and its annotation.
-/

namespace TypedOperations

/-- An attribute or parameter of a generated class. -/
structure Property where
  attributeName : String
  /-- Its annotation. -/
  hint : TypeExpression
  /-- It may be left out or `None`. -/
  optional : Bool := false
  /-- The response key of a field, the type of a condition, the name of anything else. -/
  name : String := ""
  type : Option ResolvedType := none
  /-- The qualified name of the class its values have, if they have one. -/
  className : Option String := none
  description : Option Remark := none
  selectionSet : Option SelectionSet := none
  conditional : Bool := false
deriving Inhabited

namespace Property

/-- Its values are records. -/
def isComposite (p : Property) : Bool :=
  match p.type with
  | some t => t.base.kind.isComposite
  | none => false

/-- The parameter that declares it. -/
def parameter (p : Property) : String :=
  p.attributeName ++ ": " ++ p.hint.text ++ (if p.optional then " = None" else "")

/-- The parameters of a method that takes properties by keyword; `first` is the object or class it belongs to. -/
def parameters (first : String) (ps : List Property) : List String :=
  if ps.isEmpty then [first] else first :: "*" :: ps.map parameter

end Property

/-- A name inside a scope; an empty scope is none. -/
def within (scope name : String) : String :=
  if scope == "" then name else scope ++ "." ++ name

namespace Options

/-- The property of a field. Its record class is `className`, or one named after the response key if that is empty, in
`scope`. A conditional field is optional whatever its type says. -/
def fieldProperty (o : Options) (f : Field) (scope className : String) (taken : List String) : Except Fault Property := do
  let type := if f.conditional then f.type.nullable else f.type
  let record :=
    if type.base.kind.isComposite then
      some (within scope (if className == "" then Naming.recordClass f.responseKey else className))
    else none
  let hint ← o.typeExpression (record.getD "") type
  return {
    attributeName := Naming.attributeName f.responseKey taken
    hint
    optional := !type.isRequired
    name := f.responseKey
    type := some type
    className := record
    description := f.description
    selectionSet := f.selectionSet
    conditional := f.conditional }

/-- The property that narrows a record to a type; its class is in `scope`. -/
def conditionProperty (type : NamedType) (set : SelectionSet) (scope : String) : Property :=
  let className := Naming.conditionClass type.name
  let qualified := scope ++ "." ++ className
  { attributeName := Naming.attributeName className
    hint := .optional (.name qualified)
    optional := true
    name := type.name
    className := some qualified
    selectionSet := some set }

/-- The property that gives a record as a fragment. -/
def fragmentProperty (o : Options) (fragment : String) (conditional : Bool) : Property :=
  let className := o.qualify (Naming.fragmentClass fragment)
  { attributeName := Naming.attributeName fragment
    hint := .allowNone conditional (.name className)
    optional := conditional
    name := fragment
    className := some className
    conditional }

/-- The property of a field of an input object. -/
def inputProperty (o : Options) (name : String) (type : ResolvedType) (description : Option Remark) :
    Except Fault Property := do
  return {
    attributeName := Naming.attributeName name
    hint := ← o.typeExpression "" type
    optional := !type.isRequired
    name
    type := some type
    description }

/-- A variable must be given if its type is required, or is a list of required items. -/
def variableIsRequired : ResolvedType → Bool
  | .named _ required => required
  | .list item required => required || item.isRequired

/-- The property of a variable. -/
def variableProperty (o : Options) (v : Variable) : Except Fault Property := do
  return {
    attributeName := Naming.variableAttribute v.name
    hint := ← o.typeExpression "" v.type
    optional := !variableIsRequired v.type
    name := v.name
    type := some v.type }

end Options

end TypedOperations
