import TypedOperations.Json.Basic
import TypedOperations.Language.Spelled
import TypedOperations.Schema.Build

/-!
# Schemas from introspection results

The schema that the answer to an introspection query describes. Types keep the order of the answer; built-in scalars and
introspection types are taken as they are known. Every type that is referred to must be among those listed. First every
listed type is made with its name, then the root types and the directives are, and last the members of the types are
looked up, so that a fault of an earlier step is found before one of a later step. The values of enums are not looked at.
-/

namespace TypedOperations.Schema

/-- Why an introspection result describes no schema. -/
inductive IntrospectionFault where
  /-- A member that must be there is missing. -/
  | missing (name : String)
  /-- A member is asked for where there is no object. -/
  | notAnObject
  /-- A part has the wrong shape or refers to a type it may not refer to. -/
  | malformed
  /-- A text cannot be a name. -/
  | badName (name : String) (cause : NameFault)
  /-- An argument of a field of a type has a text that cannot be a name. -/
  | badNameIn (type name : String) (cause : NameFault)
  /-- A text cannot be read as a default value. -/
  | unreadableDefault (text : String)
  /-- A text in a type cannot be read as a default value. -/
  | unreadableDefaultIn (type text : String)
deriving DecidableEq, Repr

namespace FromIntrospection

/-- A result or the fault that keeps it from being made. -/
abbrev Made (α : Type) := Except IntrospectionFault α

/-- A fault in the members of a type, as it is known once the type is made. -/
def inMembersOf {α : Type} (type : String) (x : Made α) : Made α :=
  x.mapError fun
    | .badName name cause => .badNameIn type name cause
    | .unreadableDefault text => .unreadableDefaultIn type text
    | _ => .malformed

/-- Why the text cannot be a name. -/
def nameFault? (name : String) : Option NameFault :=
  match name.toList with
  | [] => some .empty
  | c :: rest =>
    if !rest.all Language.isNameContinue then some .badCharacter
    else if !Language.isNameStart c then some .badStart
    else none

/-- Why the text cannot name an enum value. -/
def enumNameFault? (name : String) : Option NameFault :=
  (nameFault? name).or (if ["true", "false", "null"].contains name then some .literalWord else none)

/-- The text if it can be a name. -/
def checkName (name : String) : Made String :=
  (nameFault? name).elim (.ok name) fun cause => .error (.badName name cause)

/-- A member of an object; null where it is missing. -/
def optional (j : Json) (name : String) : Made Json :=
  match j with
  | .object _ => .ok ((j.get? name).getD .null)
  | _ => .error .notAnObject

/-- A member of an object that must be there. -/
def needed (j : Json) (name : String) : Made Json :=
  match j with
  | .object _ => (j.get? name).elim (.error (.missing name)) .ok
  | _ => .error .malformed

/-- The name of a part. -/
def nameOf (j : Json) : Made String := do
  match ← needed j "name" with
  | .string s => return s
  | _ => throw .malformed

/-- What is said about a part. -/
def remarkOf (j : Json) : Option Remark :=
  (j.get? "description").bind Remark.ofJson?

/-- A reason for the deprecation of a part is given. -/
def isDeprecated (j : Json) : Bool :=
  match j.get? "deprecationReason" with
  | none => false
  | some .null => false
  | some _ => true

/-- A member that may be missing counts as true. -/
def isSet (j : Json) (name : String) : Bool :=
  (j.get? name).any Json.isTrue

/-- The parts that a value lists. -/
def items : Json → Made (List Json)
  | .array items => .ok items
  | .object members => .ok (members.map fun m => .string m.1)
  | .string s => .ok (s.toList.map fun c => .string c.toString)
  | _ => .error .malformed

/-- The parts that a member lists, which must be there. -/
def itemsOf (j : Json) (name : String) : Made (List Json) := do
  items (← optional j name)

/-- The kind of a listed type. -/
def listedKind (j : Json) : Made TypeKind :=
  match j.get? "kind" with
  | some (.string "SCALAR") => .ok .scalar
  | some (.string "OBJECT") => .ok .object
  | some (.string "INTERFACE") => .ok .interface
  | some (.string "UNION") => .ok .union
  | some (.string "ENUM") => .ok .enum
  | some (.string "INPUT_OBJECT") => .ok .inputObject
  | _ => .error .malformed

/-- A listed type as far as it is made at once: by its name and kind. -/
structure Listed where
  name : String
  kind : TypeKind
  source : Json

/-- A member that is not null. -/
def present (j : Json) (name : String) : Made Unit :=
  match j.get? name with
  | none => .error .malformed
  | some .null => .error .malformed
  | some _ => .ok ()

/-- The name of an enum value, which is to be a text and is taken for one later than other shapes are told from names. -/
def valueName (j : Json) : Except ValuesFault Json :=
  match j with
  | .object _ =>
    match j.get? "name" with
    | none => .error .nameless
    | some (.array _) => .error .malformed
    | some (.object _) => .error .malformed
    | some name => .ok name
  | _ => .error .malformed

/-- An enum value with the name given. -/
def enumValue (j name : Json) : Except ValuesFault (String × EnumValue) :=
  match name with
  | .string s => (enumNameFault? s).elim (.ok (s, ⟨s, remarkOf j⟩)) fun cause => .error (.badName s cause)
  | _ => .error .malformed

/-- The values of a listed enum; of two of one name the later counts. -/
def enumValues (source : Json) : Except ValuesFault (List EnumValue) := do
  match (source.get? "enumValues").elim (.error .malformed) items with
  | .error _ => throw .malformed
  | .ok values =>
    let names ← values.mapM valueName
    return (Entries.ofPairs (← (values.zip names).mapM fun v => enumValue v.1 v.2)).values

/-- A listed type, made by its name and kind. A scalar, object or enum type with a name that is known by itself is the one
that is known; no other type may have such a name. -/
def listedType (j : Json) : Made Listed := do
  let name ← nameOf j
  let kind ← listedKind j
  let standard := standardType? name
  match kind with
  | .union => present j "possibleTypes"
  | .enum => present j "enumValues"
  | .inputObject => present j "inputFields"
  | _ => pure ()
  match standard with
  | some t => if [TypeKind.scalar, .object, .enum].contains kind then return ⟨name, t.kind, j⟩ else throw .malformed
  | none => return ⟨← checkName name, kind, j⟩

/-- The kinds of the listed types by name. -/
abbrev Kinds := Entries TypeKind

/-- A reference to a listed type of one of the kinds that `allowed` takes. -/
def namedRef (kinds : Kinds) (allowed : TypeKind → Bool) (j : Json) : Made String := do
  match ← optional j "name" with
  | .string name => if (kinds.get? name).any allowed then return name else throw .malformed
  | _ => throw .malformed

/-- A type reference; `fuel` bounds how deep it nests. -/
def typeRef (kinds : Kinds) (allowed : TypeKind → Bool) : Nat → Json → Made (TypeRef String)
  | 0, _ => .error .malformed
  | fuel + 1, j => do
    match ← optional j "kind" with
    | .string "LIST" => do return .list (← typeRef kinds allowed fuel (← inner j)) false
    | .string "NON_NULL" => do
      let t ← typeRef kinds allowed fuel (← inner j)
      if t.isRequired then throw .malformed else return t.withRequired true
    | _ => do return .named (← namedRef kinds allowed j) false
where
  /-- What a list or a type without null is of; there must be something. -/
  inner (j : Json) : Made Json := do
    let t ← optional j "ofType"
    if t.isTrue then return t else throw .malformed

/-- A reference to a type of one of the kinds that `allowed` takes, without lists or exclusion of null around it. -/
def plainRef (kinds : Kinds) (allowed : TypeKind → Bool) (j : Json) : Made String := do
  match ← typeRef kinds (fun _ => true) (j.depth + 1) j with
  | .named name false => if (kinds.get? name).any allowed then return name else throw .malformed
  | _ => throw .malformed

/-- The type of a field or argument. -/
def typeOf (kinds : Kinds) (allowed : TypeKind → Bool) (j : Json) : Made (TypeRef String) := do
  let t ← needed j "type"
  typeRef kinds allowed (t.depth + 1) t

/-- The default value of an argument or input field. -/
def fallbackOf (j : Json) : Made (Option Language.Literal) := do
  match ← optional j "defaultValue" with
  | .null => return none
  | .string text =>
    match Language.parseValue text with
    | .ok v => return some v
    | .error _ => throw (.unreadableDefault text)
  | .array items =>
    match (items.mapM text?).bind Language.spelledConstant? with
    | some v => return some v
    | none => throw .malformed
  | .object (_ :: _) => throw (.missing "0")
  | _ => throw .malformed
where
  /-- The text that a value is. -/
  text? : Json → Option String
    | .string s => some s
    | _ => none

/-- Something with the name it is given, which is not checked yet and need not be a text. -/
structure Part (α : Type) where
  name : Json
  made : String → α

/-- A part with the name it is given, where `make` makes it. Lists and objects are no names from the start. -/
def part {α : Type} (make : Json → Made (String → α)) (j : Json) : Made (Part α) := do
  let name ← needed j "name"
  let made ← make j
  match name with
  | .array _ => throw .malformed
  | .object _ => throw .malformed
  | _ => return ⟨name, made⟩

/-- A part once its name is checked, by that name. -/
def Part.named {α : Type} (p : Part α) : Made (String × α) := do
  match p.name with
  | .string s =>
    let name ← checkName s
    return (name, p.made name)
  | _ => throw .malformed

/-- Parts once their names are checked; of two of one name the later counts. -/
def allNamed {α : Type} (parts : List (Part α)) : Made (List α) := do
  return (Entries.ofPairs (← parts.mapM Part.named)).values

/-- An argument or input field. -/
def inputValue (kinds : Kinds) : Json → Made (Part InputValue) :=
  part fun j => do
    let type ← typeOf kinds TypeKind.isInput j
    let fallback ← fallbackOf j
    return fun name => ⟨name, remarkOf j, type, fallback, isDeprecated j⟩

/-- The arguments of a field. -/
def argumentsOf (kinds : Kinds) (j : Json) : Made (List InputValue) := do
  allNamed (← (← itemsOf j "args").mapM (inputValue kinds))

/-- A field. -/
def field (kinds : Kinds) : Json → Made (Part FieldDef) :=
  part fun j => do
    let type ← typeOf kinds TypeKind.isOutput j
    let arguments ← argumentsOf kinds j
    return fun name => ⟨name, remarkOf j, arguments, type, isDeprecated j⟩

/-- The fields of a type. -/
def fieldsOf (kinds : Kinds) (t : Listed) : Made (List FieldDef) := do
  allNamed (← inMembersOf t.name do (← itemsOf t.source "fields").mapM (field kinds))

/-- The fields of an input object type. -/
def inputFieldsOf (kinds : Kinds) (t : Listed) : Made (List InputValue) := do
  allNamed (← inMembersOf t.name do (← itemsOf t.source "inputFields").mapM (inputValue kinds))

/-- The interfaces of a type; those of an interface may be missing. -/
def interfacesOf (kinds : Kinds) (t : Listed) : Made (List String) :=
  inMembersOf t.name do
    match ← optional t.source "interfaces" with
    | .null => if t.kind == .interface then return [] else throw .malformed
    | interfaces => (← items interfaces).mapM (plainRef kinds (· == .interface))

/-- The members of a listed type. -/
def bodyOf (kinds : Kinds) (t : Listed) : Made TypeBody := do
  match t.kind with
  | .scalar => return .scalar
  | .object =>
    let interfaces ← interfacesOf kinds t
    return .object interfaces (← fieldsOf kinds t)
  | .interface =>
    let interfaces ← interfacesOf kinds t
    return .interface interfaces (← fieldsOf kinds t)
  | .union =>
    let members ← inMembersOf t.name do (← itemsOf t.source "possibleTypes").mapM (plainRef kinds (· == .object))
    return .union members
  | .enum => return .enum (enumValues t.source)
  | .inputObject => return .inputObject (← inputFieldsOf kinds t) (isSet t.source "isOneOf")
  | .undeclared => throw .malformed

/-- A listed type with its members. -/
def typeWithMembers (kinds : Kinds) (t : Listed) : Made TypeDef := do
  match standardType? t.name with
  | some standard => return standard
  | none => return ⟨t.name, remarkOf t.source, ← bodyOf kinds t⟩

/-- A directive location. -/
def location : Json → Made Language.Location
  | .string word => (Language.Location.ofWord? word).elim (.error .malformed) .ok
  | _ => .error .malformed

/-- A listed directive. -/
def directive (kinds : Kinds) (j : Json) : Made DirectiveDef := do
  match ← optional j "args" with
  | .null => throw .malformed
  | args =>
    present j "locations"
    let name ← needed j "name"
    let places ← itemsOf j "locations"
    let arguments ← (← items args).mapM (inputValue kinds)
    match name with
    | .string s =>
      let name ← checkName s
      let locations ← places.mapM location
      return ⟨name, ← allNamed arguments, locations, isSet j "isRepeatable"⟩
    | _ => throw .malformed

/-- The listed directives; there need not be any. -/
def directives (kinds : Kinds) (j : Json) : Made (List DirectiveDef) := do
  let listed ← optional j "directives"
  if listed.isTrue then (← items listed).mapM (directive kinds) else return []

/-- A root type, if one is given. -/
def rootRef (kinds : Kinds) (j : Json) (name : String) : Made (Option String) := do
  match ← optional j name with
  | .null => return none
  | ref => return some (← plainRef kinds (· == .object) ref)

/-- The listed types by name; of two types of one name the later counts. -/
def listedTypes (j : Json) : Made (Entries Listed) := do
  let types ← (← items (← needed j "types")).mapM listedType
  return Entries.ofPairs (types.map fun t => (t.name, t))

end FromIntrospection

/-- The schema that an introspection result describes. -/
def ofIntrospection (result : Json) : Except IntrospectionFault Schema := do
  match result.get? "__schema" with
  | some (.object members) =>
    let j := Json.object members
    let listed ← FromIntrospection.listedTypes j
    let kinds : FromIntrospection.Kinds := listed.map fun e => (e.1, e.2.kind)
    let query ← FromIntrospection.rootRef kinds j "queryType"
    let mutation ← FromIntrospection.rootRef kinds j "mutationType"
    let subscription ← FromIntrospection.rootRef kinds j "subscriptionType"
    let directives ← FromIntrospection.directives kinds j
    let types ← listed.values.mapM (FromIntrospection.typeWithMembers kinds)
    return { types := withStandardTypes types directives, query, mutation, subscription, directives }
  | _ => throw .malformed

end TypedOperations.Schema
