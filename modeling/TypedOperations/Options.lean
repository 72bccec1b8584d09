import TypedOperations.Json.Basic
import TypedOperations.Text.Identifier
import TypedOperations.Text.Quoted

/-!
# Options

What a run of the generator can be told. Options are read from a JSON object whose keys are spelled in snake case or in
camel case, and every fault in it is reported: first those of the known options in their order, then the unknown keys.
-/

namespace TypedOperations

/-- The options of a run. -/
structure Options where
  /-- The class that all generated classes are nested in. -/
  wrapper : Option String := none
  /-- Custom scalars keep their own names instead of becoming plain strings. -/
  passScalars : Bool := false
  /-- What is put before the names of custom scalars. -/
  scalarsPrefix : String := ""
  /-- Operations carry the digest of their text. -/
  operationIds : Bool := false
  /-- `__typename` is added to every selection set of a field or fragment. -/
  addTypename : Bool := true
  /-- The module that generated modules import their base classes from. -/
  supportModule : String := "gql_opgen.runtime"
  /-- Where header templates are looked for first. -/
  templateDir : Option String := none
deriving DecidableEq, Repr, Inhabited

namespace Options

/-- What is wrong with one key. -/
inductive Flaw where
  | notText
  | notTruth
  | unreadableTruth
  | refused (message : String)
  | unknownKey
deriving DecidableEq, Repr

/-- A key of the object and what is wrong with it. -/
structure Complaint where
  key : String
  flaw : Flaw
deriving DecidableEq, Repr

/-- Words that mean false. -/
def falseWords : List String := ["0", "off", "f", "false", "n", "no"]

/-- Words that mean true. -/
def trueWords : List String := ["1", "on", "t", "true", "y", "yes"]

/-- A text. -/
def readText : Json → Except Flaw String
  | .string s => .ok s
  | _ => .error .notText

/-- A text or nothing. -/
def readOptionalText : Json → Except Flaw (Option String)
  | .null => .ok none
  | j => (readText j).map some

/-- The truth value that an integer stands for: a zero or a one. One that needs more than 64 bits cannot stand for any. -/
def truthOfInt (i : Int) : Except Flaw Bool :=
  if i == 0 then .ok false
  else if i == 1 then .ok true
  else if i < -9223372036854775808 || 9223372036854775807 < i then .error .notTruth
  else .error .unreadableTruth

/-- A truth value: itself, a number for it, or a word for it in any case. A fraction with a whole value below `2^63` counts
as an integer. -/
def readTruth : Json → Except Flaw Bool
  | .bool b => .ok b
  | .int i => truthOfInt i
  | .float x =>
    match x.toInt? with
    | some i => if i.natAbs < 9223372036854775808 then truthOfInt i else .error .notTruth
    | none => .error .notTruth
  | .string s =>
    let word := String.ofList (s.toList.map Char.toLower)
    if falseWords.contains word then .ok false
    else if trueWords.contains word then .ok true
    else .error .unreadableTruth
  | _ => .error .notTruth

/-- A name for the wrapping class. -/
def readWrapper (j : Json) : Except Flaw (Option String) := do
  match ← readOptionalText j with
  | none => return none
  | some name =>
    if Text.isDeclarable name then return some name
    else throw (.refused ("namespace must be a Python identifier, got " ++ Text.quoted name))

/-- The beginning of a scalar name: nothing or an identifier. -/
def readScalarsPrefix (j : Json) : Except Flaw String := do
  let s ← readText j
  if s != "" && !Text.isIdentifier s then
    throw (.refused ("custom scalars prefix must be an identifier prefix, got " ++ Text.quoted s))
  return s

/-- An option by its two spellings, and how its value is taken into the options read so far. -/
structure Entry where
  snake : String
  camel : String
  take : Json → Options → Except Flaw Options

/-- The options in the order in which their faults are listed. -/
def entries : List Entry :=
  [⟨"namespace", "namespace", fun j o => do return { o with wrapper := ← readWrapper j }⟩,
   ⟨"passthrough_custom_scalars", "passthroughCustomScalars", fun j o => do return { o with passScalars := ← readTruth j }⟩,
   ⟨"custom_scalars_prefix", "customScalarsPrefix", fun j o => do return { o with scalarsPrefix := ← readScalarsPrefix j }⟩,
   ⟨"generate_operation_ids", "generateOperationIds", fun j o => do return { o with operationIds := ← readTruth j }⟩,
   ⟨"add_typename", "addTypename", fun j o => do return { o with addTypename := ← readTruth j }⟩,
   ⟨"runtime_module", "runtimeModule", fun j o => do return { o with supportModule := ← readText j }⟩,
   ⟨"template_dir", "templateDir", fun j o => do return { o with templateDir := ← readOptionalText j }⟩]

/-- The key that gives an option its value: the camel-case spelling before the snake-case one. -/
def Entry.usedKey (e : Entry) (members : Entries Json) : Option String :=
  if members.has e.camel then some e.camel else if members.has e.snake then some e.snake else none

/-- One option taken from the members. -/
def Entry.read (members : Entries Json) (state : Options × List Complaint) (e : Entry) : Options × List Complaint :=
  match e.usedKey members with
  | none => state
  | some key =>
    match members.get? key with
    | none => state
    | some j =>
      match e.take j state.1 with
      | .ok o => (o, state.2)
      | .error flaw => (state.1, state.2 ++ [⟨key, flaw⟩])

/-- The options that the members of an object describe, or all that is wrong with them. -/
def ofMembers (members : Entries Json) : Except (List Complaint) Options :=
  let (o, faults) := entries.foldl (Entry.read members) ({}, [])
  let used := entries.filterMap (·.usedKey members)
  let unknown := (members.names.filter fun k => !used.contains k).map fun k => Complaint.mk k .unknownKey
  match faults ++ unknown with
  | [] => .ok o
  | complaints => .error complaints

end Options

end TypedOperations
