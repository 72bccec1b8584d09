import TypedOperations.Schema.Accepts
import TypedOperations.Schema.Build
import TypedOperations.Text.Affix

/-!
# Valid schemas

The rules a schema must follow before documents are checked against it: root types exist, are object types and differ;
types have members of the right kind with names that are not reserved; default values are of the right type; a type does
what its interfaces ask; every input object can be given; and no default value contains itself.
-/

namespace TypedOperations.Schema

/-- A rule that a schema breaks. -/
inductive Fault where
  | noQueryRoot
  | rootNotObject (name : String)
  | repeatedRoot (name : String)
  | reservedName (name : String)
  | notInput (owner : String)
  | notOutput (owner : String)
  | neededButDeprecated (name : String)
  | wrongDefault (name : String)
  | noLocations (directive : String)
  | noMembers (type : String)
  | repeatedMember (type : String)
  | notAnInterface (type interface : String)
  | implementsItself (type : String)
  | repeatedInterface (type interface : String)
  | missingAncestor (type interface : String)
  | missingField (type field : String)
  | wrongFieldType (type field : String)
  | missingArgument (type field argument : String)
  | wrongArgumentType (type field argument : String)
  | addedNeededArgument (type field argument : String)
  | deprecatedImplementation (type field : String)
  | notAnObject (union member : String)
  | endless (type : String)
  | endlessDefault (type field : String)
  | neededInOneOf (type field : String)
  | badValues (type : String) (cause : ValuesFault)
deriving DecidableEq, Repr

/-- The name is kept for introspection. -/
def isReservedName (name : String) : Bool :=
  Text.beginsWith name "__"

/-- A reserved name is a fault. -/
def nameFaults (name : String) : List Fault :=
  if isReservedName name then [.reservedName name] else []

/-- The root types that are named. -/
def roots (s : Schema) : List String :=
  [s.query, s.mutation, s.subscription].filterMap id

/-- What is wrong with the root types. -/
def rootFaults (s : Schema) : List Fault :=
  (if s.query.isNone then [.noQueryRoot] else []) ++
  (s.roots.filter fun r => s.kindOf r != .object).map .rootNotObject ++
  (s.roots.filter fun r => 1 < s.roots.count r).map .repeatedRoot

/-- What is wrong with an argument or an input field. -/
def inputValueFaults (s : Schema) (v : InputValue) : List Fault :=
  nameFaults v.name ++
  (if (s.kindOf v.type.base).isInput then [] else [.notInput v.name]) ++
  (if v.isNeeded && v.deprecated then [.neededButDeprecated v.name] else []) ++
  (if v.fallback.all (s.accepts (some v.type)) then [] else [.wrongDefault v.name])

/-- What is wrong with a field. -/
def fieldFaults (s : Schema) (f : FieldDef) : List Fault :=
  nameFaults f.name ++
  (if (s.kindOf f.type.base).isOutput then [] else [.notOutput f.name]) ++
  f.arguments.flatMap (inputValueFaults s)

/-- The object and interface types that an abstract type covers. -/
def covers (s : Schema) (abstract sub : String) : Bool :=
  match s.type? abstract with
  | some t =>
    match t.body with
    | .union members => members.contains sub
    | .interface .. => s.types.any fun u => u.name == sub && u.interfaces.contains abstract
    | _ => false
  | none => false

/-- Every value of the first type is one of the second. -/
def isSubtype (s : Schema) : TypeRef String → TypeRef String → Bool
  | .named a r, .named b r' => (!r' || r) && (a == b || s.covers b a)
  | .list a r, .list b r' => (!r' || r) && isSubtype s a b
  | _, _ => false

/-- What keeps a type from doing what one field of an interface asks. -/
def implementedFieldFaults (s : Schema) (t : TypeDef) (asked : FieldDef) : List Fault :=
  match t.fields.find? (·.name == asked.name) with
  | none => [.missingField t.name asked.name]
  | some f =>
    (if s.isSubtype f.type asked.type then [] else [.wrongFieldType t.name f.name]) ++
    (asked.arguments.flatMap fun a =>
      match f.arguments.find? (·.name == a.name) with
      | none => [.missingArgument t.name f.name a.name]
      | some b => if a.type == b.type then [] else [.wrongArgumentType t.name f.name a.name]) ++
    ((f.arguments.filter fun b => b.isNeeded && !asked.arguments.any (·.name == b.name)).map fun b =>
      .addedNeededArgument t.name f.name b.name) ++
    (if f.deprecated && !asked.deprecated then [.deprecatedImplementation t.name f.name] else [])

/-- What is wrong with the interfaces of a type. -/
def interfaceFaults (s : Schema) (t : TypeDef) : List Fault :=
  t.interfaces.flatMap fun i =>
    match s.type? i with
    | some u =>
      if u.kind != .interface then [.notAnInterface t.name i]
      else if i == t.name then [.implementsItself t.name]
      else
        (if 1 < t.interfaces.count i then [.repeatedInterface t.name i] else []) ++
        (u.interfaces.filter fun a => !t.interfaces.contains a).map (.missingAncestor t.name) ++
        u.fields.flatMap (implementedFieldFaults s t)
    | none => [.notAnInterface t.name i]

/-- A value of the type exists if the input object types in `given` have values: a list can be empty. -/
def hasValue (s : Schema) (given : List String) : TypeRef String → Bool
  | .list .. => true
  | .named name _ => s.kindOf name != .inputObject || given.contains name

/-- A value of the input object type exists if the types in `given` have values: of all fields that exclude null, or of
one field where exactly one is given. -/
def canBeGiven (s : Schema) (given : List String) (t : TypeDef) : Bool :=
  match t.body with
  | .inputObject fs true => fs.any fun f => s.hasValue given f.type
  | .inputObject fs false => fs.all fun f => !f.type.isRequired || s.hasValue given f.type
  | _ => false

/-- The types that can be given, found from those in `given` in at most `fuel` rounds. -/
def givable (s : Schema) : Nat → List String → List String
  | 0, given => given
  | fuel + 1, given =>
    let more := (s.types.filter fun t => !given.contains t.name && s.canBeGiven given t).map (·.name)
    if more.isEmpty then given else givable s fuel (given ++ more)

/-- The field of an input object type that has a name. -/
def inputField? (s : Schema) (type name : String) : Option InputValue :=
  (s.type? type).bind fun t => t.inputFields.find? (·.name == name)

/-- The fields of an input object type whose own default values are used where `fields` are given: those that are left
out, have a default and hold input objects. -/
def unsetDefaults (s : Schema) (type : String) (fields : List (String × Language.Literal)) : List (String × String) :=
  match s.type? type with
  | some t => (t.inputFields.filter fun f => f.fallback.isSome && s.kindOf f.type.base == .inputObject &&
      !fields.any (·.1 == f.name)).map fun f => (type, f.name)
  | none => []

mutual

/-- The fields whose default values a literal for an input object type uses. -/
def usedDefaults (s : Schema) (type : String) : Language.Literal → List (String × String)
  | .list items => usedDefaultsOfAll s type items
  | .object fields => s.unsetDefaults type fields ++ usedDefaultsOfFields s type fields
  | _ => []

/-- The fields whose default values the items of a list use. -/
def usedDefaultsOfAll (s : Schema) (type : String) : List Language.Literal → List (String × String)
  | [] => []
  | v :: rest => usedDefaults s type v ++ usedDefaultsOfAll s type rest

/-- The fields whose default values the fields of an object use; of two fields of one name the later counts. -/
def usedDefaultsOfFields (s : Schema) (type : String) : List (String × Language.Literal) → List (String × String)
  | [] => []
  | (name, v) :: rest =>
    (match s.inputField? type name with
      | some f => if rest.any (·.1 == name) then [] else usedDefaults s f.type.base v
      | none => []) ++ usedDefaultsOfFields s type rest

end

/-- The fields whose default values the default value of a field uses. -/
def defaultsOfField (s : Schema) (field : String × String) : List (String × String) :=
  match s.inputField? field.1 field.2 with
  | some f => f.fallback.elim [] (s.usedDefaults f.type.base)
  | none => []

/-- What is reached from `next`, in at most `fuel` rounds; from `seen` all steps were taken before. -/
def reachableFrom {α : Type} [BEq α] (step : α → List α) : Nat → List α → List α → List α
  | 0, seen, next => seen ++ next
  | fuel + 1, seen, next =>
    let seen := seen ++ next
    let more := (next.flatMap step).eraseDups.filter fun n => !seen.contains n
    if more.isEmpty then seen else reachableFrom step fuel seen more

/-- What is reached from what is given, itself included, in at most `fuel` rounds. -/
def reachable {α : Type} [BEq α] (step : α → List α) (fuel : Nat) (start : List α) : List α :=
  reachableFrom step fuel [] start

/-- The default value of a field uses itself. -/
def isEndlessDefault (s : Schema) (field : String × String) : Bool :=
  (reachable s.defaultsOfField (s.types.flatMap (·.inputFields)).length (s.defaultsOfField field).eraseDups).contains field

/-- What is wrong with a type; `given` are the input object types that can be given. -/
def typeFaults (s : Schema) (given : List String) (t : TypeDef) : List Fault :=
  nameFaults t.name ++
  match t.body with
  | .scalar => []
  | .object _ fs =>
    (if fs.isEmpty then [.noMembers t.name] else []) ++ fs.flatMap (fieldFaults s) ++ interfaceFaults s t
  | .interface _ fs =>
    (if fs.isEmpty then [.noMembers t.name] else []) ++ fs.flatMap (fieldFaults s) ++ interfaceFaults s t
  | .union ms =>
    (if ms.isEmpty then [.noMembers t.name] else []) ++
    (if ms.any fun m => 1 < ms.count m then [.repeatedMember t.name] else []) ++
    (ms.filter fun m => s.kindOf m != .object).map (.notAnObject t.name)
  | .enum (.ok vs) =>
    (if vs.isEmpty then [.noMembers t.name] else []) ++ vs.flatMap fun v => nameFaults v.name
  | .enum (.error cause) => [.badValues t.name cause]
  | .inputObject fs oneOf =>
    (if fs.isEmpty then [.noMembers t.name] else []) ++ fs.flatMap (inputValueFaults s) ++
    (if oneOf then (fs.filter fun f => f.type.isRequired || f.fallback.isSome).map fun f => .neededInOneOf t.name f.name
      else []) ++
    (if given.contains t.name then [] else [.endless t.name]) ++
    (fs.filter fun f => s.isEndlessDefault (t.name, f.name)).map fun f => .endlessDefault t.name f.name

/-- What is wrong with a directive. -/
def directiveFaults (s : Schema) (d : DirectiveDef) : List Fault :=
  nameFaults d.name ++ (if d.locations.isEmpty then [.noLocations d.name] else []) ++
    d.arguments.flatMap (inputValueFaults s)

/-- All that is wrong with a schema; the introspection types are as they should be. -/
def faults (s : Schema) : List Fault :=
  let given := s.givable s.types.length []
  s.rootFaults ++ s.directives.flatMap s.directiveFaults ++
    (s.types.filter fun t => !Introspection.types.any (·.name == t.name)).flatMap (s.typeFaults given)

/-- Why documents cannot be checked against a schema. -/
inductive CheckError where
  /-- The values of an enum cannot be made, which ends the check. -/
  | values (cause : ValuesFault)
  | faults (causes : List Fault)
deriving DecidableEq, Repr

/-- Documents can be checked against the schema, or why not. -/
def check (s : Schema) : Except CheckError Unit :=
  let found := s.faults
  match found.findSome? fun
    | .badValues _ cause => some cause
    | _ => none with
  | some cause => .error (.values cause)
  | none => if found.isEmpty then .ok () else .error (.faults found)

end TypedOperations.Schema
