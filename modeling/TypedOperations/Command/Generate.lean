import TypedOperations.Archive.Unpack
import TypedOperations.Command.Arguments
import TypedOperations.Files.Load
import TypedOperations.Module
import TypedOperations.Schema.Validity
import TypedOperations.Selection.Resolve
import TypedOperations.Validation.Rules

/-!
# The command

What the command does with the files it can see: it says what it is doing, line by line, and ends with a file to write, or
with the reason why there is none. Reasons that lie in what was given are reported; everything else is a failure of the
command itself.
-/

namespace TypedOperations.Command

/-- Where a run takes place: the files it can see, the working directory, and a directory for the contents of archives. -/
structure Environment where
  tree : FileTree
  working : PathParts
  temporary : PathParts

/-- A failure of the command itself. -/
inductive Failure where
  | load (cause : LoadError)
  | schema (cause : Schema.CheckError)
  /-- The check of documents ends early. -/
  | interrupted (cause : Validation.Interruption)
  | resolve (cause : ResolveError)
  | generate (cause : Fault)
  | template
  | archive (cause : UnpackFault)
  /-- The module cannot be written. -/
  | output (cause : Obstacle)

/-- How a run ends. -/
inductive Ending where
  | done
  /-- The arguments cannot be used. -/
  | misused
  /-- The reason is reported. -/
  | reported (message : String)
  | failed (failure : Failure)

/-- What a run leaves behind. -/
structure Progress where
  /-- The lines said so far. -/
  lines : List String := []
  written : Option (PathParts × String) := none
  /-- What is left where the directory for the contents of archives was: the directory itself if it was not taken away,
  and what an archive put beside it. -/
  leftovers : Nat := 0

/-- A part of a run. -/
abbrev Run := ExceptT Ending (StateM Progress)

/-- A line is said. -/
def say (line : String) : Run Unit :=
  modify fun p => { p with lines := p.lines ++ [line] }

/-- A line is said if the run is verbose. -/
def sayIf (verbose : Bool) (line : String) : Run Unit :=
  if verbose then say line else pure ()

/-- The ending that an error in loading leads to. -/
def loadEnding (e : LoadError) : Ending :=
  match e with
  | .noSchema _ => .reported e.message
  | .noDocuments _ => .reported e.message
  | .unreadable _ => .reported e.message
  | .notText => .reported e.message
  | .notJson _ => .reported e.message
  | .badIntrospection (.badName ..) => .reported e.message
  | .badIntrospection (.badNameIn ..) => .reported e.message
  | .badIntrospection (.unreadableDefault _) => .reported "Syntax Error"
  | .badIntrospection (.unreadableDefaultIn ..) => .reported e.message
  | .badValue _ => .reported e.message
  | _ => .failed (.load e)

/-- The ending that a fault of a schema leads to. -/
def schemaEnding (e : Schema.CheckError) : Ending :=
  match e with
  | .values (.reason cause) => .reported cause.message
  | .values (.badName name cause) => .reported (cause.message name)
  | _ => .failed (.schema e)

/-- The ending that a problem of documents leads to. -/
def problemEnding : Validation.Problem → Ending
  | .interrupted (.unfitDeferral cause) => .reported cause.message
  | .interrupted cause => .failed (.interrupted cause)
  | .broken _ => .reported "Validation of GraphQL documents failed:"

/-- The ending that an error in resolving leads to. -/
def resolveEnding (e : ResolveError) : Ending :=
  match e with
  | .conditionWithoutArguments => .failed (.resolve e)
  | .conditionWithoutIf => .failed (.resolve e)
  | _ => .reported e.message

/-- The ending that a fault in generating leads to. -/
def generateEnding (e : Fault) : Ending :=
  match e with
  | .cyclicFragments _ => .failed (.generate e)
  | .unmergedSpread _ => .failed (.generate e)
  | .noNestedClass _ => .failed (.generate e)
  | .noSelectionSet .. => .failed (.generate e)
  | .blankDescription => .failed (.generate e)
  | .unwritableRemark => .failed (.generate e)
  | .badValues .nameless => .failed (.generate e)
  | .badValues .malformed => .failed (.generate e)
  | _ => .reported e.message

/-- A result, or the ending that its error leads to. -/
def orEnd {ε α : Type} (ending : ε → Ending) : Except ε α → Run α
  | .ok a => pure a
  | .error e => throw (ending e)

/-- The endings of archives. -/
def archiveEndings : List String := [".zip", ".tar.gz", ".tgz"]

/-- The name is one of an archive, in capitals or not. -/
def isArchiveName (name : String) : Bool :=
  archiveEndings.any (Text.endsIn (String.ofList (Text.lower name.toList)))

/-- The tree with the contents of an archive. What they put beside the directory stays behind; so does the directory if
they cannot be taken out. -/
def unpacked (x : Environment) (name : String) (content : FileContent) : Run FileTree := do
  if Path.suffix name == ".zip" || Text.endsIn name ".tar.gz" || Text.endsIn name ".tgz" then
    let (t, fault) := x.tree.unpack x.temporary name content
    let strays := (t.beside x.temporary).filter fun n => !(x.tree.beside x.temporary).contains n
    modify fun p => { p with leftovers := p.leftovers + strays.length + (if fault.isSome then 1 else 0) }
    fault.elim (pure t) fun cause => throw (.failed (.archive cause))
  else throw (.reported ("Unsupported archive format: " ++ Path.suffix name))

/-- The tree and the path that the schema is loaded from: those given, or the contents of an archive. -/
def schemaSource (x : Environment) (path : PathParts) (verbose : Bool) : Run (FileTree × String) := do
  let name := Path.name path
  match x.tree.file? path, isArchiveName name with
  | some content, true =>
    say ("Extracting archive " ++ name ++ "...")
    let tree ← unpacked x name content
    let place := Path.display x.temporary
    sayIf verbose ("  Extracted to: " ++ place)
    return (tree, place)
  | _, _ => return (x.tree, Path.display path)

/-- The header template in a directory, or the standard one. -/
def templateIn (x : Environment) (directory : Option String) : Run Template :=
  match directory.bind fun d => x.tree.file? (Path.resolve x.working d ++ ["file_header.py.j2"]) with
  | some content => do
    let text ← orEnd loadEnding content.read
    (Template.ofText? text).elim (throw (.failed .template)) pure
  | none => pure .standard

/-- The context of documents that are valid for a schema. -/
def contextOf (s : Schema) (d : Language.Document) (o : Options) : Run Context := do
  orEnd schemaEnding s.check
  orEnd problemEnding (Validation.check s d)
  orEnd resolveEnding (Context.resolve s o d)

/-- How often a text occurs in another, without overlaps. -/
def occurrences (word : List Char) : Nat → List Char → Nat
  | 0, _ => 0
  | _, [] => 0
  | fuel + 1, c :: rest =>
    if word.isPrefixOf (c :: rest) then 1 + occurrences word fuel ((c :: rest).drop word.length)
    else occurrences word fuel rest

/-- What keeps the module from being written at a path, in a directory that is made if there is none. -/
def blockage? (t : FileTree) (path : PathParts) : Option Obstacle :=
  if t.isFile path.dropLast then some .taken
  else if (List.range path.length).any fun n => t.isFile (path.take n) then some .fileAbove
  else if t.isDirectory path then some .directory
  else none

/-- A module is generated and written. -/
def generateModule (x : Environment) (s : Settings) (o : Options) (schema output : String) : Run Unit := do
  let outputPath := Path.resolve x.working output
  let (tree, source) ← schemaSource x (Path.resolve x.working schema) s.verbose
  sayIf s.verbose ("Schema: " ++ source)
  sayIf s.verbose ("Documents: " ++ String.intercalate ", " s.documents)
  sayIf s.verbose ("Output: " ++ Path.display outputPath)
  say "Loading schema..."
  let loaded ← orEnd loadEnding (tree.loadSchema x.working source)
  say "Compiling documents..."
  let document ← orEnd loadEnding (x.tree.loadDocuments x.working s.documents)
  let context ← contextOf loaded document o
  sayIf s.verbose ("  Operations: " ++ toString context.operations.length)
  sayIf s.verbose ("  Fragments: " ++ toString context.fragments.length)
  sayIf s.verbose ("  Types used: " ++ toString context.typesUsed.length)
  say "Generating code..."
  let template ← templateIn x s.templateDir
  let code ← orEnd generateEnding (context.generate template)
  sayIf s.verbose ("  Lines: " ++ toString (Text.splitLines code.toList).length)
  sayIf s.verbose ("  Classes: " ++ toString (occurrences "class ".toList (code.length + 1) code.toList))
  match blockage? x.tree outputPath with
  | some cause => throw (.failed (.output cause))
  | none =>
    modify fun p => { p with written := some (outputPath, code) }
    say ("Done! Generated code in " ++ Path.display outputPath)

/-- The options that settings give. -/
def optionsOf (s : Settings) : Option Options :=
  let text (name : String) (v : Option String) : List (String × Json) := v.elim [] fun v => [(name, .string v)]
  match Options.ofMembers (text "namespace" s.wrapper ++
    [("passthrough_custom_scalars", .bool s.passScalars), ("custom_scalars_prefix", .string s.scalarsPrefix),
     ("generate_operation_ids", .bool s.operationIds)] ++ text "template_dir" s.templateDir) with
  | .ok o => some o
  | .error _ => none

/-- The paths that settings name can be used: what is read is there, and what is written is not a directory. -/
def pathsFit (x : Environment) (s : Settings) (schema output : String) : Bool :=
  let given (path : String) : Bool := x.tree.leadsSomewhere x.working path
  given schema && s.documents.all given && !x.tree.leadsToDirectory x.working output &&
    s.templateDir.all (x.tree.leadsToDirectory x.working)

/-- The subcommand that generates a module. -/
def generate (x : Environment) (s : Settings) : Run Unit :=
  match s.schema, s.output with
  | some schema, some output =>
    if pathsFit x s schema output then
      match optionsOf s with
      | some o => generateModule x s o schema output
      | none => throw .misused
    else throw .misused
  | _, _ => throw .misused

/-- What the command says about itself. -/
def helpLines : List String :=
  ["Usage: main generate --schema PATH --documents PATH... --output FILE", "",
   "  Generate typed classes from GraphQL queries, mutations and fragments.", "", "Options:",
   "  -s, --schema PATH               A schema file (definitions or introspection result), directory or archive.",
   "  -d, --documents PATH            A document file or directory. May be given more than once.",
   "  -o, --output FILE               The file for the generated module.",
   "  --namespace TEXT                Wrap all generated classes in a class of this name.",
   "  --passthrough-custom-scalars    Expose custom scalars under their own names.",
   "  --custom-scalars-prefix TEXT    Prefix for the names of custom scalars.",
   "  --operation-ids                 Emit an identifier for every operation.",
   "  --template-dir DIRECTORY        A directory with a header template.",
   "  -v, --verbose                   Say more.",
   "  --help                          Show this message and exit."]

/-- What the arguments ask for is done. -/
def perform (x : Environment) : Request → Run Unit
  | .version => say "main, version 0.1.0"
  | .help => helpLines.forM say
  | .generate s => generate x s
  | .misused => throw .misused

/-- How a run of the command ends and what it leaves behind. -/
def run (x : Environment) (args : List String) : Ending × Progress :=
  match (perform x (.ofArguments args)).run.run {} with
  | (.ok _, p) => (.done, p)
  | (.error e, p) => (e, p)

/-- The exit status of an ending. -/
def Ending.status : Ending → Nat
  | .done => 0
  | .misused => 2
  | .reported _ => 1
  | .failed _ => 1

/-- The lines of a run, the reported reason included. -/
def said (e : Ending) (p : Progress) : List String :=
  match e with
  | .reported message => p.lines ++ (Text.splitOn '\n' ("Error: " ++ message).toList).map String.ofList
  | _ => p.lines

end TypedOperations.Command
