import TypedOperations.Schema.Validity
import TypedOperations.Validation.Placement

/-!
# Variables in literals

Where variables stand in the literals of a document, and which variables may stand there.
-/

namespace TypedOperations.Validation

open TypedOperations.Language

/-- A variable where it is used: the type of the place, whether something else is used if the variable is not given, and
whether the place is the one field that an object must have. -/
structure Usage where
  name : String
  type : Option (TypeRef String)
  hasFallback : Bool
  inOneOf : Bool

/-- The type of the items of a list literal given to a type; nothing is known of them if the type is not one of lists. -/
def itemType : Option (TypeRef String) → Option (TypeRef String)
  | some (.list item _) => some item
  | _ => none

/-- The type is an input object type as it is, and neither one of lists nor one that excludes null. -/
def isBare : TypeRef String → Bool
  | .named _ required => !required
  | .list .. => false

mutual

/-- The variables in a literal. -/
def usages (s : Schema) (type : Option (TypeRef String)) (hasFallback inOneOf : Bool) : Literal → List Usage
  | .var name => [⟨name, type, hasFallback, inOneOf⟩]
  | .list items => usagesOfAll s (itemType type) items
  | .object fields =>
    let declared := type.bind fun t => s.inputObject? t.base
    let oneOf := declared.elim false (·.2) && type.any isBare
    usagesOfFields s ((declared.map (·.1)).getD []) oneOf fields
  | _ => []

/-- The variables in the items of a list. -/
def usagesOfAll (s : Schema) (type : Option (TypeRef String)) : List Literal → List Usage
  | [] => []
  | v :: rest => usages s type false false v ++ usagesOfAll s type rest

/-- The variables in the fields of an object, of which exactly one is given if `oneOf` says so. -/
def usagesOfFields (s : Schema) (declared : List Schema.InputValue) (oneOf : Bool) : List (String × Literal) → List Usage
  | [] => []
  | (name, v) :: rest =>
    let d := declared.find? (·.name == name)
    usages s (d.map (·.type)) (d.elim false (·.fallback.isSome)) oneOf v ++ usagesOfFields s declared oneOf rest

end

/-- The variables in a literal in place. -/
def InputSite.usages (s : Schema) (i : InputSite) : List Usage :=
  Validation.usages s i.type i.hasFallback false i.value

/-- A variable may stand where it is used: its type is one of the values the place takes, where a default value excludes
null. -/
def isAllowed (s : Schema) (v : VariableDefinition) (u : Usage) : Bool :=
  match u.type with
  | none => true
  | some place =>
    let excludesNull := match v.fallback with
      | none => false
      | some .null => false
      | some _ => true
    (s.resolve? v.type).isNone ||
      (!(u.inOneOf && !v.type.isRequired) &&
        if place.isRequired && !v.type.isRequired then
          (excludesNull || u.hasFallback) && s.isSubtype v.type place.nullable
        else s.isSubtype v.type place)

end TypedOperations.Validation
