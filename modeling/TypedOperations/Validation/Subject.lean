import TypedOperations.Schema.Validity
import TypedOperations.Validation.Placement

/-!
# What is checked

A document with the schema it is checked against, and what its definitions hold. The fragments and what each of them
spreads are looked up by name again and again, so they are kept.
-/

namespace TypedOperations.Validation

open TypedOperations.Language

/-- The fragments that the selections listed spread themselves. -/
def namesSpread (selections : List Selection) : List String :=
  selections.filterMap fun
    | .spread name _ => some name
    | _ => none

/-- The fragments that selections spread. -/
def spreadsIn (selections : List Selection) : List String :=
  namesSpread (allSelections selections)

/-- The fragments of a document in order. -/
def fragmentsIn (d : Document) : List FragmentDefinition :=
  d.filterMap fun
    | .fragment f => some f
    | _ => none

/-- A document with the schema it is checked against. -/
structure Subject where
  schema : Schema
  document : Document
  /-- The fragments of the document by name. -/
  fragments : Entries FragmentDefinition
  /-- The fragments that each fragment spreads. -/
  spreads : Entries (List String)

namespace Subject

/-- A document to be checked against a schema. -/
def of (s : Schema) (d : Document) : Subject :=
  let fragments := Entries.ofPairs ((fragmentsIn d).map fun f => (f.name, f))
  ⟨s, d, fragments, fragments.map fun (name, f) => (name, (spreadsIn f.selections).eraseDups)⟩

/-- The operations of the document. -/
def operations (x : Subject) : List OperationDefinition :=
  x.document.filterMap fun
    | .operation o => some o
    | _ => none

/-- The fragments of the document in order. -/
def fragmentList (x : Subject) : List FragmentDefinition :=
  fragmentsIn x.document

/-- All selections of the document in place. -/
def placed (x : Subject) : List Placed :=
  x.document.flatMap (Validation.placed x.schema)

/-- All selections of the document. -/
def selections (x : Subject) : List Selection :=
  x.document.flatMap Definition.allSelections

/-- All places of the document with directives. -/
def sites (x : Subject) : List Site :=
  x.document.flatMap Definition.sites

/-- The fragments that a fragment spreads. -/
def spreadsOf (x : Subject) (name : String) : List String :=
  (x.spreads.get? name).getD []

/-- The names of the fragments that selections reach. -/
def fragmentsReached (x : Subject) (selections : List Selection) : List String :=
  Schema.reachable x.spreadsOf (x.document.length + 1) (spreadsIn selections).eraseDups

end Subject

end TypedOperations.Validation
