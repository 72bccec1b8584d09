import TypedOperations.Schema.Introspection

/-!
# Schemas from definitions

The schema that the type system definitions of a document describe: every type with what its extensions add, in the
order of the definitions, then the built-in scalars that are used and the introspection types.
-/

namespace TypedOperations.Schema

open TypedOperations.Language

/-- What a description says. -/
def remarkOf (d : Option Description) : Option Remark :=
  d.map fun d => .text d.value

/-- A deprecation is among the directives. -/
def isDeprecated (ds : List Directive) : Bool :=
  ds.any (·.name == "deprecated")

/-- A declared argument or input field. -/
def InputValue.ofDefinition (v : InputValueDefinition) : InputValue :=
  ⟨v.name, remarkOf v.description, v.type, v.fallback, isDeprecated v.directives⟩

/-- A declared field. -/
def FieldDef.ofDefinition (f : FieldDefinition) : FieldDef :=
  ⟨f.name, remarkOf f.description, f.arguments.map .ofDefinition, f.type, isDeprecated f.directives⟩

/-- Declared enum values; the reasons of their deprecations must be texts. -/
def EnumValue.ofDefinitions (vs : List EnumValueDefinition) : Except ValuesFault (List EnumValue) :=
  match vs.findSome? fun v => reasonFault? v.directives with
  | some cause => .error (.reason cause)
  | none => .ok (vs.map fun v => ⟨v.name, remarkOf v.description⟩)

/-- What a definition says of its type. -/
def TypeBody.ofShape (directives : List Directive) : TypeShape → TypeBody
  | .scalar => .scalar
  | .object is fs => .object is (fs.map .ofDefinition)
  | .interface is fs => .interface is (fs.map .ofDefinition)
  | .union ms => .union ms
  | .enum vs => .enum (EnumValue.ofDefinitions vs)
  | .inputObject fs => .inputObject (fs.map .ofDefinition) (directives.any (·.name == "oneOf"))

/-- The body with what an extension adds; an extension of another kind adds nothing. -/
def TypeBody.extend (body : TypeBody) (shape : TypeShape) : TypeBody :=
  match body, shape with
  | .object is fs, .object is' fs' => .object (is ++ is') (fs ++ fs'.map .ofDefinition)
  | .interface is fs, .interface is' fs' => .interface (is ++ is') (fs ++ fs'.map .ofDefinition)
  | .union ms, .union ms' => .union (ms ++ ms')
  | .enum vs, .enum vs' => .enum do return (← vs) ++ (← EnumValue.ofDefinitions vs')
  | .inputObject fs oneOf, .inputObject fs' => .inputObject (fs ++ fs'.map .ofDefinition) oneOf
  | body, _ => body

/-- The type definitions of a document. -/
def typeDefinitions (d : Document) : List TypeDefinition :=
  d.filterMap fun
    | .type t => some t
    | _ => none

/-- The type extensions of a document. -/
def typeExtensions (d : Document) : List TypeDefinition :=
  d.filterMap fun
    | .extendType t => some t
    | _ => none

/-- The directive definitions of a document. -/
def directiveDefinitions (d : Document) : List DirectiveDefinition :=
  d.filterMap fun
    | .directive x => some x
    | _ => none

/-- The schema definitions of a document. -/
def schemaDefinitions (d : Document) : List SchemaDefinition :=
  d.filterMap fun
    | .schema s => some s
    | _ => none

/-- The schema extensions of a document. -/
def schemaExtensions (d : Document) : List SchemaDefinition :=
  d.filterMap fun
    | .extendSchema s => some s
    | _ => none

/-- A built-in scalar type. -/
def scalarType (name : String) : TypeDef := ⟨name, none, .scalar⟩

/-- The type that has a name by itself: a built-in scalar or an introspection type. -/
def standardType? (name : String) : Option TypeDef :=
  if builtInScalars.contains name then some (scalarType name) else Introspection.types.find? (·.name == name)

/-- A type from its definition and the extensions of it. -/
def TypeDef.ofDefinition (extensions : List TypeDefinition) (t : TypeDefinition) : TypeDef :=
  match standardType? t.name with
  | some standard => standard
  | none =>
    let body := (extensions.filter (·.name == t.name)).foldl (fun b e => b.extend e.shape) (.ofShape t.directives t.shape)
    ⟨t.name, remarkOf t.description, body⟩

/-- A directive from its definition. -/
def DirectiveDef.ofDefinition (d : DirectiveDefinition) : DirectiveDef :=
  ⟨d.name, d.arguments.map .ofDefinition, d.locations, d.repeatable⟩

/-- A condition under which a selection is kept or left out. -/
def conditionDirective (name : String) : DirectiveDef :=
  ⟨name, [⟨"if", none, .named "Boolean" true, none, false⟩], [.field, .fragmentSpread, .inlineFragment], false⟩

/-- The directives every schema has. -/
def standardDirectives : List DirectiveDef :=
  [conditionDirective "include", conditionDirective "skip",
   ⟨"deprecated", [⟨"reason", none, .named "String" true, some (.string "No longer supported" false), false⟩],
     [.fieldDefinition, .argumentDefinition, .inputFieldDefinition, .enumValue, .directiveDefinition], false⟩,
   ⟨"specifiedBy", [⟨"url", none, .named "String" true, none, false⟩], [.scalar], false⟩,
   ⟨"oneOf", [], [.inputObject], false⟩]

/-- The directives given, and the standard ones whose names are not among them. -/
def withStandardDirectives (ds : List DirectiveDef) : List DirectiveDef :=
  ds ++ standardDirectives.filter fun s => !ds.any (·.name == s.name)

/-- The names of types that a type refers to. -/
def TypeDef.mentioned (t : TypeDef) : List String :=
  match t.body with
  | .scalar => []
  | .object is fs => is ++ fs.flatMap fun f => f.type.base :: f.arguments.map (·.type.base)
  | .interface is fs => is ++ fs.flatMap fun f => f.type.base :: f.arguments.map (·.type.base)
  | .union ms => ms
  | .enum _ => []
  | .inputObject fs _ => fs.map (·.type.base)

/-- The types given, then the built-in scalars and introspection types that belong to them. -/
def withStandardTypes (types : List TypeDef) (directives : List DirectiveDef) : List TypeDef :=
  let mentioned := types.flatMap TypeDef.mentioned ++ directives.flatMap (·.arguments.map (·.type.base)) ++
    ["String", "Boolean"]
  let missing (name : String) : Bool := !types.any (·.name == name)
  types ++ (builtInScalars.filter fun n => mentioned.contains n && missing n).map scalarType ++
    Introspection.types.filter fun t => missing t.name

/-- The root type named last for a kind of operation. -/
def lastRoot (roots : List (OperationKind × String)) (kind : OperationKind) : Option String :=
  (roots.reverse.find? (·.1 == kind)).map (·.2)

/-- The schema that the type system definitions of a document describe. Without a schema definition the types `Query`,
`Mutation` and `Subscription` are its roots. -/
def ofDefinitions (d : Document) : Schema :=
  let definitions := typeDefinitions d
  let types := definitions.map (.ofDefinition (typeExtensions d))
  let directives := withStandardDirectives ((directiveDefinitions d).map .ofDefinition)
  let roots := (schemaDefinitions d ++ schemaExtensions d).flatMap (·.roots)
  let byName (kind : OperationKind) (name : String) : Option String :=
    if (schemaDefinitions d).isEmpty && definitions.any (·.name == name) then some name else lastRoot roots kind
  { types := withStandardTypes types directives
    query := byName .query "Query"
    mutation := byName .mutation "Mutation"
    subscription := byName .subscription "Subscription"
    directives }

end TypedOperations.Schema
