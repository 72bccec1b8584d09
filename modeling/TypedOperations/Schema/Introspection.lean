import TypedOperations.Schema.Basic

/-!
# Introspection

The types through which a schema describes itself, and the meta fields that lead to them. They belong to every schema.
-/

namespace TypedOperations.Schema

namespace Introspection

/-- A required reference to a named type. -/
def req (name : String) : TypeRef String := .named name true

/-- A nullable reference to a named type. -/
def opt (name : String) : TypeRef String := .named name false

/-- A field without arguments. -/
def plain (name : String) (description : Option String) (type : TypeRef String) : FieldDef :=
  ⟨name, description.map .text, [], type, false⟩

/-- A field whose list leaves out what is deprecated unless asked otherwise. -/
def listed (name : String) (description : Option String) (type : TypeRef String) : FieldDef :=
  ⟨name, description.map .text, [⟨"includeDeprecated", none, req "Boolean", some (.bool false), false⟩], type, false⟩

/-- A value of an enum. -/
def value (name : String) (description : String) : EnumValue := ⟨name, some (.text description)⟩

/-- The type `__Schema`. -/
def schemaType : TypeDef where
  name := "__Schema"
  description := some <| .text ("A GraphQL Schema defines the capabilities of a GraphQL server. It exposes all available types " ++
    "and directives on the server, as well as the entry points for query, mutation, and subscription operations.")
  body := .object []
    [plain "description" none (opt "String"),
     plain "types" (some "A list of all types supported by this server.") (.list (req "__Type") true),
     plain "queryType" (some "The type that query operations will be rooted at.") (req "__Type"),
     plain "mutationType" (some ("If this server supports mutation, the type that mutation operations will be rooted " ++
       "at.")) (opt "__Type"),
     plain "subscriptionType" (some ("If this server supports subscription, the type that subscription operations " ++
       "will be rooted at.")) (opt "__Type"),
     listed "directives" (some "A list of all directives supported by this server.") (.list (req "__Directive") true)]

/-- The type `__Directive`. -/
def directiveType : TypeDef where
  name := "__Directive"
  description := some <| .text ("A Directive provides a way to describe alternate runtime execution and type validation " ++
    "behavior in a GraphQL document.\n\nIn some cases, you need to provide options to alter GraphQL's execution " ++
    "behavior in ways field arguments will not suffice, such as conditionally including or skipping a field. " ++
    "Directives provide this by describing additional information to the executor.")
  body := .object []
    [plain "name" none (req "String"),
     plain "description" none (opt "String"),
     plain "isRepeatable" none (req "Boolean"),
     plain "locations" none (.list (req "__DirectiveLocation") true),
     listed "args" none (.list (req "__InputValue") true),
     plain "isDeprecated" none (req "Boolean"),
     plain "deprecationReason" none (opt "String")]

/-- The type `__DirectiveLocation`. -/
def directiveLocationType : TypeDef where
  name := "__DirectiveLocation"
  description := some <| .text ("A Directive can be adjacent to many parts of the GraphQL language, a __DirectiveLocation " ++
    "describes one such possible adjacencies.")
  body := .enum <| .ok
    [value "QUERY" "Location adjacent to a query operation.",
     value "MUTATION" "Location adjacent to a mutation operation.",
     value "SUBSCRIPTION" "Location adjacent to a subscription operation.",
     value "FIELD" "Location adjacent to a field.",
     value "FRAGMENT_DEFINITION" "Location adjacent to a fragment definition.",
     value "FRAGMENT_SPREAD" "Location adjacent to a fragment spread.",
     value "INLINE_FRAGMENT" "Location adjacent to an inline fragment.",
     value "VARIABLE_DEFINITION" "Location adjacent to an operation variable definition.",
     value "FRAGMENT_VARIABLE_DEFINITION" "Location adjacent to a fragment variable definition.",
     value "SCHEMA" "Location adjacent to a schema definition.",
     value "SCALAR" "Location adjacent to a scalar definition.",
     value "OBJECT" "Location adjacent to an object type definition.",
     value "FIELD_DEFINITION" "Location adjacent to a field definition.",
     value "ARGUMENT_DEFINITION" "Location adjacent to an argument definition.",
     value "INTERFACE" "Location adjacent to an interface definition.",
     value "UNION" "Location adjacent to a union definition.",
     value "ENUM" "Location adjacent to an enum definition.",
     value "ENUM_VALUE" "Location adjacent to an enum value definition.",
     value "INPUT_OBJECT" "Location adjacent to an input object type definition.",
     value "INPUT_FIELD_DEFINITION" "Location adjacent to an input object field definition.",
     value "DIRECTIVE_DEFINITION" "Location adjacent to a directive definition."]

/-- The type `__Type`. -/
def typeType : TypeDef where
  name := "__Type"
  description := some <| .text ("The fundamental unit of any GraphQL Schema is the type. There are many kinds of types in " ++
    "GraphQL as represented by the `__TypeKind` enum.\n\nDepending on the kind of a type, certain fields describe " ++
    "information about that type. Scalar types provide no information beyond a name, description and optional " ++
    "`specifiedByURL`, while Enum types provide their values. Object and Interface types provide the fields they " ++
    "describe. Abstract types, Union and Interface, provide the Object types possible at runtime. List and NonNull " ++
    "types compose other types.")
  body := .object []
    [plain "kind" none (req "__TypeKind"),
     plain "name" none (opt "String"),
     plain "description" none (opt "String"),
     plain "specifiedByURL" none (opt "String"),
     listed "fields" none (.list (req "__Field") false),
     plain "interfaces" none (.list (req "__Type") false),
     plain "possibleTypes" none (.list (req "__Type") false),
     listed "enumValues" none (.list (req "__EnumValue") false),
     listed "inputFields" none (.list (req "__InputValue") false),
     plain "ofType" none (opt "__Type"),
     plain "isOneOf" none (opt "Boolean")]

/-- The type `__Field`. -/
def fieldType : TypeDef where
  name := "__Field"
  description := some <| .text ("Object and Interface types are described by a list of Fields, each of which has a name, " ++
    "potentially a list of arguments, and a return type.")
  body := .object []
    [plain "name" none (req "String"),
     plain "description" none (opt "String"),
     listed "args" none (.list (req "__InputValue") true),
     plain "type" none (req "__Type"),
     plain "isDeprecated" none (req "Boolean"),
     plain "deprecationReason" none (opt "String")]

/-- The type `__InputValue`. -/
def inputValueType : TypeDef where
  name := "__InputValue"
  description := some <| .text ("Arguments provided to Fields or Directives and the input fields of an InputObject are " ++
    "represented as Input Values which describe their type and optionally a default value.")
  body := .object []
    [plain "name" none (req "String"),
     plain "description" none (opt "String"),
     plain "type" none (req "__Type"),
     plain "defaultValue" (some "A GraphQL-formatted string representing the default value for this input value.")
       (opt "String"),
     plain "isDeprecated" none (req "Boolean"),
     plain "deprecationReason" none (opt "String")]

/-- The type `__EnumValue`. -/
def enumValueType : TypeDef where
  name := "__EnumValue"
  description := some <| .text ("One possible value for a given Enum. Enum values are unique values, not a placeholder for a " ++
    "string or numeric value. However an Enum value is returned in a JSON response as a string.")
  body := .object []
    [plain "name" none (req "String"),
     plain "description" none (opt "String"),
     plain "isDeprecated" none (req "Boolean"),
     plain "deprecationReason" none (opt "String")]

/-- The type `__TypeKind`. -/
def typeKindType : TypeDef where
  name := "__TypeKind"
  description := some <| .text "An enum describing what kind of type a given `__Type` is."
  body := .enum <| .ok
    [value "SCALAR" "Indicates this type is a scalar.",
     value "OBJECT" "Indicates this type is an object. `fields` and `interfaces` are valid fields.",
     value "INTERFACE" ("Indicates this type is an interface. `fields`, `interfaces`, and `possibleTypes` are " ++
       "valid fields."),
     value "UNION" "Indicates this type is a union. `possibleTypes` is a valid field.",
     value "ENUM" "Indicates this type is an enum. `enumValues` is a valid field.",
     value "INPUT_OBJECT" "Indicates this type is an input object. `inputFields` is a valid field.",
     value "LIST" "Indicates this type is a list. `ofType` is a valid field.",
     value "NON_NULL" "Indicates this type is a non-null. `ofType` is a valid field."]

/-- The introspection types. -/
def types : List TypeDef :=
  [schemaType, directiveType, directiveLocationType, typeType, fieldType, inputValueType, enumValueType, typeKindType]

/-- The meta field that names the type of a value. -/
def typenameField : FieldDef :=
  plain "__typename" (some "The name of the current Object type at runtime.") (req "String")

/-- The meta field that leads to the schema. -/
def schemaField : FieldDef :=
  plain "__schema" (some "Access the current type schema of this server.") (req "__Schema")

/-- The meta field that leads to one type. -/
def typeField : FieldDef :=
  ⟨"__type", some (.text "Request the type information of a single type."), [⟨"name", none, req "String", none, false⟩],
    opt "__Type", false⟩

end Introspection

/-- The field that a name selects on a type: a meta field, or a field of an object or interface type. -/
def field? (s : Schema) (parent : TypeDef) (name : String) : Option FieldDef :=
  if name == "__typename" then some Introspection.typenameField
  else if name == "__schema" && s.query == some parent.name then some Introspection.schemaField
  else if name == "__type" && s.query == some parent.name then some Introspection.typeField
  else parent.fields.find? (·.name == name)

end TypedOperations.Schema
