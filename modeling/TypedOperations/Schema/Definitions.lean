import TypedOperations.Language.Sites
import TypedOperations.Schema.Build

/-!
# Sound definitions

The rules that a document of type system definitions must follow before a schema is made of it: names are defined once and
only defined names are used, extensions extend something of their kind, and directives stand where they may with the
arguments they need. Operations and fragments in it must follow these rules too, though nothing is made of them.
-/

namespace TypedOperations.Schema

open TypedOperations.Language

/-- A rule that a document of definitions breaks. -/
inductive DefinitionFault where
  | repeatedSchema
  | repeatedRoot (kind : OperationKind)
  | repeatedType (name : String)
  | repeatedEnumValue (type : String)
  | repeatedField (type : String)
  | repeatedArgumentDefinition (owner : String)
  | repeatedDirectiveDefinition (name : String)
  | unknownType (name : String)
  | unknownDirective (name : String)
  | misplacedDirective (name : String)
  | repeatedDirective (name : String)
  | badExtension (name : String)
  | unknownArgument (directive name : String)
  | repeatedArgument
  | repeatedInputField
  | missingArgument (directive name : String)
deriving DecidableEq, Repr

/-- The values that occur again later in the list. -/
def repeats {α : Type} [BEq α] : List α → List α
  | [] => []
  | a :: rest => if rest.contains a then a :: repeats rest else repeats rest

/-- The names that a type and its extensions give to their members, by a way to get them from a shape. -/
def memberNames (members : TypeShape → List String) (definitions : List TypeDefinition) (name : String) : List String :=
  (definitions.filter (·.name == name)).flatMap fun t => members t.shape

/-- The enum values a shape declares. -/
def shapeValues : TypeShape → List String
  | .enum vs => vs.map (·.name)
  | _ => []

/-- The fields a shape declares. -/
def shapeFields : TypeShape → List String
  | .object _ fs => fs.map (·.name)
  | .interface _ fs => fs.map (·.name)
  | .inputObject fs => fs.map (·.name)
  | _ => []

/-- The argument lists a shape declares, with the field each belongs to. -/
def shapeArguments : TypeShape → List (String × List String)
  | .object _ fs => fs.map fun f => (f.name, f.arguments.map (·.name))
  | .interface _ fs => fs.map fun f => (f.name, f.arguments.map (·.name))
  | _ => []

/-- The type names that a definition of the type system uses. -/
def usedTypes : Definition → List String
  | .operation _ => []
  | .fragment _ => []
  | .schema s => s.roots.map (·.2)
  | .extendSchema s => s.roots.map (·.2)
  | .type t => shape t.shape
  | .extendType t => shape t.shape
  | .directive d => d.arguments.map (·.type.base)
  | .extendDirective _ => []
where
  /-- The types of declared fields and of their arguments. -/
  fields (fs : List FieldDefinition) : List String :=
    fs.flatMap fun f => f.type.base :: f.arguments.map (·.type.base)
  /-- The types a shape uses. -/
  shape : TypeShape → List String
    | .scalar => []
    | .object is fs => is ++ fields fs
    | .interface is fs => is ++ fields fs
    | .union ms => ms
    | .enum _ => []
    | .inputObject fs => fs.map (·.type.base)

/-- Two shapes are of one kind. -/
def sameShape (a b : TypeShape) : Bool :=
  a.location == b.location

/-- What is wrong with the directives of a place, by the directives that exist. -/
def siteFaults (directives : List DirectiveDef) (site : Site) : List DefinitionFault :=
  site.directives.flatMap fun d =>
    match directives.find? (·.name == d.name) with
    | none => [.unknownDirective d.name]
    | some definition =>
      (if definition.locations.contains site.location then [] else [.misplacedDirective d.name]) ++
      ((d.arguments.filter fun a => !definition.arguments.any (·.name == a.name)).map fun a =>
        .unknownArgument d.name a.name) ++
      ((definition.arguments.filter fun v => v.isNeeded && !d.arguments.any (·.name == v.name)).map fun v =>
        .missingArgument d.name v.name)

/-- The directives of a place that must not be repeated. -/
def uniqueDirectives (directives : List DirectiveDef) (site : Site) : List String :=
  (site.directives.map (·.name)).filter fun n => directives.any fun d => d.name == n && !d.repeatable

/-- Directives repeated in one place, or in places with one owner. -/
def repeatedDirectives (directives : List DirectiveDef) (sites : List Site) : List String :=
  let alone := sites.flatMap fun s =>
    match s.owner with
    | none => repeats (uniqueDirectives directives s)
    | some _ => []
  let owners := (sites.filterMap (·.owner)).eraseDups
  let shared := owners.flatMap fun o =>
    repeats ((sites.filter (·.owner == some o)).flatMap (uniqueDirectives directives))
  alone ++ shared

/-- All that is wrong with a document of definitions. -/
def definitionFaults (d : Document) : List DefinitionFault :=
  let types := typeDefinitions d
  let extensions := typeExtensions d
  let all := types ++ extensions
  let names := (all.map (·.name)).eraseDups
  let schemas := schemaDefinitions d ++ schemaExtensions d
  let directives := (ofDefinitions d).directives
  let sites := d.flatMap Definition.sites
  let known (name : String) : Bool := types.any (·.name == name)
  (if 1 < (schemaDefinitions d).length then [.repeatedSchema] else []) ++
  (repeats ((schemas.flatMap (·.roots)).map (·.1))).map .repeatedRoot ++
  (repeats (types.map (·.name))).map .repeatedType ++
  (names.filter fun n => !(repeats (memberNames shapeValues all n)).isEmpty).map .repeatedEnumValue ++
  (names.filter fun n => !(repeats (memberNames shapeFields all n)).isEmpty).map .repeatedField ++
  (all.flatMap fun t => ((shapeArguments t.shape).filter fun f => hasRepeat f.2).map fun f =>
    .repeatedArgumentDefinition f.1) ++
  ((directiveDefinitions d).filter fun x => hasRepeat (x.arguments.map (·.name))).map
    (fun x => .repeatedArgumentDefinition x.name) ++
  (repeats ((directiveDefinitions d).map (·.name))).map .repeatedDirectiveDefinition ++
  ((d.flatMap usedTypes).filter fun n => !known n && (standardType? n).isNone).map .unknownType ++
  ((d.flatMap Definition.mentionedTypes).filter fun n => !known n).map .unknownType ++
  sites.flatMap (siteFaults directives) ++
  (repeatedDirectives directives sites).map .repeatedDirective ++
  (extensions.filter fun e => !types.any fun t => t.name == e.name && sameShape t.shape e.shape).map
    (fun e => .badExtension e.name) ++
  (if (d.flatMap Definition.argumentLists).any fun args => hasRepeat (args.map (·.name)) then [.repeatedArgument] else []) ++
  (if (d.flatMap Definition.literals).any Literal.repeatsField then [.repeatedInputField] else [])

end TypedOperations.Schema
