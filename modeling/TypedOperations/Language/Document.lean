import TypedOperations.TypeRef

/-!
# Documents

GraphQL documents as they are written: operations and fragments, and the definitions and extensions of a type system.
-/

namespace TypedOperations.Language

/-- A literal value or a variable. -/
inductive Literal where
  | var (name : String)
  | int (digits : String)
  | float (digits : String)
  | string (value : String) (block : Bool)
  | bool (value : Bool)
  | null
  | enum (name : String)
  | list (items : List Literal)
  | object (fields : List (String × Literal))
deriving Inhabited

/-- A named value in parentheses. -/
structure Argument where
  name : String
  value : Literal
  /-- How many tokens the text has from the value on, which tells the place of the value in the text. -/
  tokensLeft : Nat := 0
deriving Inhabited

/-- A directive with its arguments; an argument list is never empty where it is written. -/
structure Directive where
  name : String
  arguments : List Argument
deriving Inhabited

/-- A selection: a field, a fragment spread or an inline fragment. -/
inductive Selection where
  | field (label : Option String) (name : String) (arguments : List Argument) (directives : List Directive)
      (selections : Option (List Selection))
  | spread (fragment : String) (directives : List Directive)
  | inline (condition : Option String) (directives : List Directive) (selections : List Selection)
deriving Inhabited

/-- A string in front of a definition, and whether it is a block string. -/
structure Description where
  value : String
  block : Bool
deriving Inhabited

/-- The kinds of operations. -/
inductive OperationKind where
  | query
  | mutation
  | subscription
deriving DecidableEq, Repr, Inhabited

/-- The word for a kind of operation. -/
def OperationKind.word : OperationKind → String
  | .query => "query"
  | .mutation => "mutation"
  | .subscription => "subscription"

/-- The declaration of an operation variable. -/
structure VariableDefinition where
  description : Option Description
  name : String
  type : TypeRef String
  fallback : Option Literal
  directives : List Directive
deriving Inhabited

/-- An operation. -/
structure OperationDefinition where
  description : Option Description
  kind : OperationKind
  name : Option String
  parameters : List VariableDefinition
  directives : List Directive
  selections : List Selection
deriving Inhabited

/-- A named fragment. -/
structure FragmentDefinition where
  description : Option Description
  name : String
  condition : String
  directives : List Directive
  selections : List Selection
deriving Inhabited

/-- The declaration of an argument or of a field of an input object. -/
structure InputValueDefinition where
  description : Option Description
  name : String
  type : TypeRef String
  fallback : Option Literal
  directives : List Directive
deriving Inhabited

/-- The declaration of a field. -/
structure FieldDefinition where
  description : Option Description
  name : String
  arguments : List InputValueDefinition
  type : TypeRef String
  directives : List Directive
deriving Inhabited

/-- The declaration of an enum value. -/
structure EnumValueDefinition where
  description : Option Description
  name : String
  directives : List Directive
deriving Inhabited

/-- What a type definition says of its type. -/
inductive TypeShape where
  | scalar
  | object (interfaces : List String) (fields : List FieldDefinition)
  | interface (interfaces : List String) (fields : List FieldDefinition)
  | union (members : List String)
  | enum (values : List EnumValueDefinition)
  | inputObject (fields : List InputValueDefinition)
deriving Inhabited

/-- A type definition or extension. -/
structure TypeDefinition where
  description : Option Description
  name : String
  directives : List Directive
  shape : TypeShape
deriving Inhabited

/-- The places where a directive may stand. -/
inductive Location where
  | query
  | mutation
  | subscription
  | field
  | fragmentDefinition
  | fragmentSpread
  | inlineFragment
  | variableDefinition
  | fragmentVariableDefinition
  | schema
  | scalar
  | object
  | fieldDefinition
  | argumentDefinition
  | interface
  | union
  | enum
  | enumValue
  | inputObject
  | inputFieldDefinition
  | directiveDefinition
deriving DecidableEq, Repr, Inhabited

/-- The locations with the words for them. -/
def Location.words : List (String × Location) :=
  [("QUERY", .query), ("MUTATION", .mutation), ("SUBSCRIPTION", .subscription), ("FIELD", .field),
   ("FRAGMENT_DEFINITION", .fragmentDefinition), ("FRAGMENT_SPREAD", .fragmentSpread),
   ("INLINE_FRAGMENT", .inlineFragment), ("VARIABLE_DEFINITION", .variableDefinition),
   ("FRAGMENT_VARIABLE_DEFINITION", .fragmentVariableDefinition), ("SCHEMA", .schema), ("SCALAR", .scalar),
   ("OBJECT", .object), ("FIELD_DEFINITION", .fieldDefinition), ("ARGUMENT_DEFINITION", .argumentDefinition),
   ("INTERFACE", .interface), ("UNION", .union), ("ENUM", .enum), ("ENUM_VALUE", .enumValue),
   ("INPUT_OBJECT", .inputObject), ("INPUT_FIELD_DEFINITION", .inputFieldDefinition),
   ("DIRECTIVE_DEFINITION", .directiveDefinition)]

/-- The location a word names. -/
def Location.ofWord? (word : String) : Option Location :=
  Location.words.lookup word

/-- The word for a location. -/
def Location.word (l : Location) : String :=
  ((Location.words.find? (·.2 == l)).map (·.1)).getD ""

/-- The definition of a directive. -/
structure DirectiveDefinition where
  description : Option Description
  name : String
  arguments : List InputValueDefinition
  directives : List Directive
  repeatable : Bool
  locations : List Location
deriving Inhabited

/-- The extension of a directive definition. -/
structure DirectiveExtension where
  name : String
  directives : List Directive
deriving Inhabited

/-- The root types a schema definition or extension names. -/
structure SchemaDefinition where
  description : Option Description
  directives : List Directive
  roots : List (OperationKind × String)
deriving Inhabited

/-- A definition of a document. -/
inductive Definition where
  | operation (operation : OperationDefinition)
  | fragment (fragment : FragmentDefinition)
  | schema (schema : SchemaDefinition)
  | type (type : TypeDefinition)
  | directive (directive : DirectiveDefinition)
  | extendSchema (schema : SchemaDefinition)
  | extendType (type : TypeDefinition)
  | extendDirective (directive : DirectiveExtension)
deriving Inhabited

/-- A document: its definitions in order. -/
abbrev Document := List Definition

end TypedOperations.Language
