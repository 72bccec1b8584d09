import TypedOperations.Language.Sites
import TypedOperations.Schema.Introspection

/-!
# Selections and values in place

Every selection of a document with the composite type it stands on, and every literal with the input type it is given to.
Where the schema does not know a type, nothing is said about what stands on it or is given to it.
-/

namespace TypedOperations.Validation

open TypedOperations.Language

/-- The composite type of a name. -/
def composite? (s : Schema) (name : String) : Option Schema.TypeDef :=
  (s.type? name).filter (·.kind.isComposite)

/-- The field that a name selects on a type, if both are known. -/
def fieldOn (s : Schema) (parent : Option Schema.TypeDef) (name : String) : Option Schema.FieldDef :=
  parent.bind (s.field? · name)

/-- The type that the sub-selections of a field stand on. -/
def fieldParent (s : Schema) (parent : Option Schema.TypeDef) (name : String) : Option Schema.TypeDef :=
  (fieldOn s parent name).bind fun f => composite? s f.type.base

/-- The type that the selections of an inline fragment stand on. -/
def inlineParent (s : Schema) (parent : Option Schema.TypeDef) : Option String → Option Schema.TypeDef
  | some name => composite? s name
  | none => parent

/-- A selection with the type it stands on, and the field that it stands in or is. -/
structure Placed where
  parent : Option Schema.TypeDef
  field : Option Schema.FieldDef
  selection : Selection

mutual

/-- A selection in place, then those in it; `field` is the field around it. -/
def place (s : Schema) (parent : Option Schema.TypeDef) (field : Option Schema.FieldDef) : Selection → List Placed
  | .field label name args ds none => [⟨parent, fieldOn s parent name, .field label name args ds none⟩]
  | .field label name args ds (some sub) =>
    ⟨parent, fieldOn s parent name, .field label name args ds (some sub)⟩ ::
      placeAll s (fieldParent s parent name) (fieldOn s parent name) sub
  | .spread fragment ds => [⟨parent, field, .spread fragment ds⟩]
  | .inline condition ds sub =>
    ⟨parent, field, .inline condition ds sub⟩ :: placeAll s (inlineParent s parent condition) field sub

/-- Selections in place, each followed by those in it. -/
def placeAll (s : Schema) (parent : Option Schema.TypeDef) (field : Option Schema.FieldDef) :
    List Selection → List Placed
  | [] => []
  | x :: rest => place s parent field x ++ placeAll s parent field rest

end

/-- The type that the selections of a definition stand on. -/
def rootOf (s : Schema) : Definition → Option Schema.TypeDef
  | .operation o => (s.root o.kind).bind (composite? s)
  | .fragment f => composite? s f.condition
  | _ => none

/-- The outermost selections of a definition. -/
def selectionsOf : Definition → List Selection
  | .operation o => o.selections
  | .fragment f => f.selections
  | _ => []

/-- All selections of a definition in place. -/
def placed (s : Schema) (d : Definition) : List Placed :=
  placeAll s (rootOf s d) none (selectionsOf d)

/-- A literal with the input type it is given to, and whether something else is used if it is left out. -/
structure InputSite where
  type : Option (TypeRef String)
  hasFallback : Bool
  value : Literal

/-- A literal given to one of the declared arguments. -/
def inputSite (declared : List Schema.InputValue) (a : Argument) : InputSite :=
  match declared.find? (·.name == a.name) with
  | some v => ⟨some v.type, v.fallback.isSome, a.value⟩
  | none => ⟨none, false, a.value⟩

/-- The literals given to fields. -/
def fieldInputs (s : Schema) (d : Definition) : List InputSite :=
  (placed s d).flatMap fun p => p.selection.arguments.map (inputSite (p.field.elim [] (·.arguments)))

/-- The literals given to directives. -/
def directiveInputs (s : Schema) (d : Definition) : List InputSite :=
  d.sites.flatMap fun site => site.directives.flatMap fun x =>
    x.arguments.map (inputSite ((s.directive? x.name).elim [] (·.arguments)))

/-- The default values of variables. -/
def fallbackInputs : Definition → List InputSite
  | .operation o => o.parameters.filterMap fun v => v.fallback.map fun l => ⟨some v.type, false, l⟩
  | _ => []

/-- The literals of a definition in place. -/
def inputs (s : Schema) (d : Definition) : List InputSite :=
  fieldInputs s d ++ directiveInputs s d ++ fallbackInputs d

end TypedOperations.Validation
