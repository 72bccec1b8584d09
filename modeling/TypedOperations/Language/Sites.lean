import TypedOperations.Language.Document

/-!
# What a document holds

Every selection, every place with directives, every argument list and every literal of a document, each as a plain list
in document order. Rules that do not depend on types are stated over these lists.
-/

namespace TypedOperations.Language

mutual

/-- The selection and all selections in it, outermost first. -/
def Selection.all : Selection → List Selection
  | .field label name args ds none => [.field label name args ds none]
  | .field label name args ds (some sub) => .field label name args ds (some sub) :: allSelections sub
  | .spread fragment ds => [.spread fragment ds]
  | .inline condition ds sub => .inline condition ds sub :: allSelections sub

/-- The selections and all selections in them, in document order. -/
def allSelections : List Selection → List Selection
  | [] => []
  | s :: rest => s.all ++ allSelections rest

end

/-- The directives of a selection. -/
def Selection.directives : Selection → List Directive
  | .field _ _ _ ds _ => ds
  | .spread _ ds => ds
  | .inline _ ds _ => ds

/-- The arguments of a selection. -/
def Selection.arguments : Selection → List Argument
  | .field _ _ args _ _ => args
  | _ => []

/-- The place a selection is for directives. -/
def Selection.location : Selection → Location
  | .field .. => .field
  | .spread .. => .fragmentSpread
  | .inline .. => .inlineFragment

/-- What several definitions can be about together. -/
inductive Owner where
  | schema
  | type (name : String)
  | directive (name : String)
deriving DecidableEq, Repr

/-- A place with directives. Places with the same owner count as one where a directive must not be repeated. -/
structure Site where
  location : Location
  owner : Option Owner
  directives : List Directive

/-- The places of selections. -/
def selectionSites (selections : List Selection) : List Site :=
  (allSelections selections).map fun s => ⟨s.location, none, s.directives⟩

/-- The place of an operation. -/
def OperationKind.location : OperationKind → Location
  | .query => .query
  | .mutation => .mutation
  | .subscription => .subscription

/-- The place of a type definition. -/
def TypeShape.location : TypeShape → Location
  | .scalar => .scalar
  | .object .. => .object
  | .interface .. => .interface
  | .union _ => .union
  | .enum _ => .enum
  | .inputObject _ => .inputObject

/-- The places of declared arguments or input fields. -/
def inputValueSites (location : Location) (values : List InputValueDefinition) : List Site :=
  values.map fun v => ⟨location, none, v.directives⟩

/-- The places of declared fields and of their arguments. -/
def fieldSites (fields : List FieldDefinition) : List Site :=
  fields.flatMap fun f => ⟨.fieldDefinition, none, f.directives⟩ :: inputValueSites .argumentDefinition f.arguments

/-- The places of a type definition or extension. -/
def TypeDefinition.sites (t : TypeDefinition) : List Site :=
  ⟨t.shape.location, some (.type t.name), t.directives⟩ ::
    match t.shape with
    | .object _ fs => fieldSites fs
    | .interface _ fs => fieldSites fs
    | .enum vs => vs.map fun v => ⟨.enumValue, none, v.directives⟩
    | .inputObject fs => inputValueSites .inputFieldDefinition fs
    | _ => []

/-- The places of a definition. -/
def Definition.sites : Definition → List Site
  | .operation o =>
    ⟨o.kind.location, none, o.directives⟩ :: o.parameters.map (fun v => ⟨.variableDefinition, none, v.directives⟩) ++
      selectionSites o.selections
  | .fragment f => ⟨.fragmentDefinition, none, f.directives⟩ :: selectionSites f.selections
  | .schema s => [⟨.schema, some .schema, s.directives⟩]
  | .extendSchema s => [⟨.schema, some .schema, s.directives⟩]
  | .type t => t.sites
  | .extendType t => t.sites
  | .directive d =>
    ⟨.directiveDefinition, some (.directive d.name), d.directives⟩ :: inputValueSites .argumentDefinition d.arguments
  | .extendDirective d => [⟨.directiveDefinition, some (.directive d.name), d.directives⟩]

/-- The selections of a definition, nested ones included. -/
def Definition.allSelections : Definition → List Selection
  | .operation o => Language.allSelections o.selections
  | .fragment f => Language.allSelections f.selections
  | _ => []

/-- The type names that an executable definition mentions: those of variables and of type conditions. -/
def Definition.mentionedTypes (d : Definition) : List String :=
  let conditions := d.allSelections.filterMap fun
    | .inline condition _ _ => condition
    | _ => none
  match d with
  | .operation o => o.parameters.map (·.type.base) ++ conditions
  | .fragment f => f.condition :: conditions
  | _ => []

/-- The argument lists of a definition: those of its fields and of its directives. -/
def Definition.argumentLists (d : Definition) : List (List Argument) :=
  d.allSelections.map Selection.arguments ++ d.sites.flatMap fun s => s.directives.map (·.arguments)

/-- The declared arguments and input fields of a type definition. -/
def TypeDefinition.inputValues (t : TypeDefinition) : List InputValueDefinition :=
  match t.shape with
  | .object _ fs => fs.flatMap (·.arguments)
  | .interface _ fs => fs.flatMap (·.arguments)
  | .inputObject fs => fs
  | _ => []

/-- The outermost literals of a definition: argument values and default values. -/
def Definition.literals (d : Definition) : List Literal :=
  d.argumentLists.flatMap (·.map (·.value)) ++
    match d with
    | .operation o => o.parameters.filterMap (·.fallback)
    | .type t => t.inputValues.filterMap (·.fallback)
    | .extendType t => t.inputValues.filterMap (·.fallback)
    | .directive d => d.arguments.filterMap (·.fallback)
    | _ => []

mutual

/-- Some object in the literal names a field twice. -/
def Literal.repeatsField : Literal → Bool
  | .list items => anyRepeatsField items
  | .object fields => anyFieldRepeats [] fields
  | _ => false

/-- Some literal names a field of an object twice. -/
def anyRepeatsField : List Literal → Bool
  | [] => false
  | v :: rest => v.repeatsField || anyRepeatsField rest

/-- Some field is named twice or among `seen`, or holds such an object. -/
def anyFieldRepeats (seen : List String) : List (String × Literal) → Bool
  | [] => false
  | (name, v) :: rest => seen.contains name || v.repeatsField || anyFieldRepeats (name :: seen) rest

end

/-- Some name occurs twice. -/
def hasRepeat : List String → Bool
  | [] => false
  | name :: rest => rest.contains name || hasRepeat rest

end TypedOperations.Language
