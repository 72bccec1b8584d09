import TypedOperations.Fault
import TypedOperations.Options
import TypedOperations.Schema.Basic

/-!
# Type expressions

How types are written in a generated module: as annotations, in which a nullable layer is `Optional[...]` and a list layer
`List[...]`, and as tags of selection descriptors, in which a required layer is marked instead.
-/

namespace TypedOperations

/-- An annotation. -/
inductive TypeExpression where
  | name (text : String)
  | optional (inner : TypeExpression)
  | list (item : TypeExpression)
deriving DecidableEq, Repr, Inhabited

namespace TypeExpression

/-- The annotation as it is written. -/
def text : TypeExpression → String
  | .name t => t
  | .optional inner => "Optional[" ++ inner.text ++ "]"
  | .list item => "List[" ++ item.text ++ "]"

/-- The name inside all layers. -/
def base : TypeExpression → String
  | .name t => t
  | .optional inner => inner.base
  | .list item => item.base

/-- The annotation with `None` allowed or not. -/
def allowNone (allowed : Bool) (e : TypeExpression) : TypeExpression :=
  if allowed then .optional e else e

end TypeExpression

/-- A tag that describes the type of a field. -/
inductive OutputExpression where
  | scalar (name : String)
  | object (record : String)
  | list (item : OutputExpression)
  | nonNull (inner : OutputExpression)
deriving DecidableEq, Repr, Inhabited

namespace OutputExpression

/-- The tag as it is written. -/
def text : OutputExpression → String
  | .scalar name => "OutputType.scalar(" ++ name ++ ")"
  | .object record => "OutputType.object(" ++ record ++ ".selections())"
  | .list item => "OutputType.list(" ++ item.text ++ ")"
  | .nonNull inner => "OutputType.non_null(" ++ inner.text ++ ")"

/-- The tag, marked as required or not. -/
def markRequired (required : Bool) (e : OutputExpression) : OutputExpression :=
  if required then .nonNull e else e

end OutputExpression

namespace Options

/-- The annotations of the built-in scalars. -/
def scalarNames : Entries String :=
  [("String", "str"), ("Int", "int"), ("Float", "float"), ("Boolean", "bool"), ("ID", "GraphQLID")]

/-- The name of a custom scalar. -/
def customScalar (o : Options) (name : String) : String :=
  o.scalarsPrefix ++ name

/-- The annotation of a scalar. -/
def scalar (o : Options) (name : String) : String :=
  match scalarNames.get? name with
  | some built => built
  | none => if o.passScalars then o.customScalar name else "str"

/-- A top-level name as it is seen from anywhere in the module. -/
def qualify (o : Options) (name : String) : String :=
  match o.wrapper with
  | some w => w ++ "." ++ name
  | none => name

/-- The annotation of a named type. A name in `inner` stands for composite, enum and input types; the name `Snapshot`
stands for every type; an empty name stands for nothing. -/
def typeName (o : Options) (inner : String) (t : NamedType) : Except Fault String :=
  if inner != "" && (t.kind.isComposite || inner == "Snapshot") then .ok inner
  else if t.kind == .scalar then .ok (o.scalar t.name)
  else if t.kind == .undeclared then .error (.unknownType t.name)
  else .ok (if inner != "" then inner else o.qualify t.name)

/-- The annotation of a type, with the named type inside written as `inner` says. -/
def typeExpression (o : Options) (inner : String) : ResolvedType → Except Fault TypeExpression
  | .named t required => do return .allowNone (!required) (.name (← o.typeName inner t))
  | .list item required => do return .allowNone (!required) (.list (← o.typeExpression inner item))

/-- The tag of a named type; `record` is the class of a composite one. -/
def outputName (o : Options) (record : String) (t : NamedType) : Except Fault OutputExpression :=
  match t.kind with
  | .scalar => .ok (.scalar (o.scalar t.name))
  | .enum => .ok (.scalar (o.qualify t.name))
  | .object => .ok (.object record)
  | .interface => .ok (.object record)
  | .union => .ok (.object record)
  | _ => .error (.unknownFieldType t.name)

/-- The tag of a type; `record` is the class of a composite one. -/
def outputExpression (o : Options) (record : String) : ResolvedType → Except Fault OutputExpression
  | .named t required => do return .markRequired required (← o.outputName record t)
  | .list item required => do return .markRequired required (.list (← o.outputExpression record item))

end Options

end TypedOperations
