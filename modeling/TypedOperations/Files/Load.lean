import TypedOperations.Files.Tree
import TypedOperations.Json.Reader
import TypedOperations.Language.Complaint
import TypedOperations.Schema.Definitions
import TypedOperations.Schema.DirectiveValue
import TypedOperations.Schema.FromIntrospection

/-!
# Loading schemas and documents

A schema is read from a file with an introspection result, or from files of definitions taken together; documents are
read from any number of files and taken together.
-/

namespace TypedOperations

/-- Why something cannot be loaded. -/
inductive LoadError where
  | noSchema (path : String)
  | noDocuments (paths : List String)
  /-- A file is not a text. -/
  | notText
  | unreadable (cause : Language.SyntaxError)
  | notJson (cause : Json.ReadError)
  /-- The introspection result is not an object. -/
  | notAnObject
  | badIntrospection (cause : Schema.IntrospectionFault)
  | badDefinitions (causes : List Schema.DefinitionFault)
  | badValue (cause : Schema.BadValue)

/-- The wording of an error. -/
def LoadError.message : LoadError → String
  | .noSchema path => "No schema files found at " ++ path
  | .noDocuments paths => "No GraphQL documents found in " ++ String.intercalate ", " paths
  | .notText => "'utf-8' codec can't decode byte 0x8b in position 1: invalid start byte"
  | .unreadable _ => "Syntax Error"
  | .notJson cause => cause.message
  | .notAnObject => "The introspection result is not an object"
  | .badIntrospection (.missing name) => name
  | .badIntrospection (.badName name cause) => cause.message name
  | .badIntrospection (.badNameIn type name cause) => type ++ " fields cannot be resolved. " ++ cause.message name
  | .badIntrospection (.unreadableDefault text) => Language.constantFault text
  | .badIntrospection (.unreadableDefaultIn type text) =>
    type ++ " fields cannot be resolved. " ++ Language.constantFault text
  | .badIntrospection _ => "The introspection result describes no schema"
  | .badDefinitions _ => "The definitions describe no schema"
  | .badValue cause => cause.message

/-- The endings of files with definitions. -/
def schemaEndings : List String := [".graphql", ".graphqls"]

/-- The endings of files with documents. -/
def documentEndings : List String := [".graphql", ".gql"]

/-- The text of a file with line feeds for all line ends. The second byte of what is compressed starts no character, so
that it is not a text; a zip archive is one without any token. -/
def FileContent.read : FileContent → Except LoadError String
  | .text s => .ok (String.ofList (Text.unifyLineEnds s.toList))
  | .zip _ => .ok ""
  | .gzippedTar _ => .error .notText

/-- The definitions of a text. -/
def parseOne (o : Language.Origin) : Except LoadError (List (Schema.Sourced Language.Definition)) :=
  match Language.parse o.text with
  | .ok d => .ok (d.map (o, ·))
  | .error e => .error (.unreadable e)

/-- The definitions of texts, one text after another. -/
def parseAll (os : List Language.Origin) : Except LoadError (List (Schema.Sourced Language.Definition)) := do
  return (← os.mapM parseOne).flatten

/-- The definitions of files, one file after another. -/
def parseFiles (files : List (String × FileContent)) : Except LoadError (List (Schema.Sourced Language.Definition)) := do
  return (← files.mapM fun f => do parseOne ⟨f.1, ← f.2.read⟩).flatten

/-- The schema that a text with an introspection result describes. The result may be the data of a response. -/
def schemaOfJson (text : String) : Except LoadError Schema :=
  match Json.read text with
  | .error e => .error (.notJson e)
  | .ok (.object members) =>
    let j := Json.object members
    match Schema.ofIntrospection ((j.get? "data").getD j) with
    | .ok s => .ok s
    | .error e => .error (.badIntrospection e)
  | .ok _ => .error .notAnObject

/-- The schema that definitions describe, if they are sound. -/
def schemaOfDefinitions (ds : List (Schema.Sourced Language.Definition)) : Except LoadError Schema :=
  match Schema.definitionFaults (ds.map (·.2)), Schema.badValue? ds with
  | [], none => .ok (Schema.ofDefinitions (ds.map (·.2)))
  | [], some b => .error (.badValue b)
  | faults, _ => .error (.badDefinitions faults)

/-- The schema that the definitions in texts describe, if they are sound. -/
def schemaOfTexts (os : List Language.Origin) : Except LoadError Schema := do
  schemaOfDefinitions (← parseAll os)

/-- The schema at a path. -/
def FileTree.loadSchema (t : FileTree) (working : PathParts) (path : String) : Except LoadError Schema :=
  match t.fileAt? working path, Text.endsIn path ".json" with
  | some content, true => do schemaOfJson (← content.read)
  | _, _ =>
    match t.collect working path schemaEndings with
    | [] => .error (.noSchema path)
    | files => do schemaOfDefinitions (← parseFiles files)

/-- The documents at paths. -/
def FileTree.loadDocuments (t : FileTree) (working : PathParts) (paths : List String) :
    Except LoadError Language.Document :=
  match paths.flatMap fun p => t.collect working p documentEndings with
  | [] => .error (.noDocuments paths)
  | files => do return (← parseFiles files).map (·.2)

end TypedOperations
