import TypedOperations.Fault
import TypedOperations.Options
import TypedOperations.Schema.Basic
import TypedOperations.Value

/-!
# Selections

Operations and fragments resolved against a schema. A selection set carries the object types it can apply to; a selection
is a field, a set narrowed to a type, a spread of a named fragment, or a set that a variable guards.
-/

namespace TypedOperations

/-- An argument of a field. -/
structure Argument where
  name : String
  value : Value
deriving Inhabited

/-- Selections in order, with the object types they can apply to. -/
structure SelectionSetOf (σ : Type) where
  possibleTypes : List String
  selections : List σ
deriving Inhabited

/-- A field as it is selected. -/
structure FieldOf (σ : Type) where
  /-- The key of the field in a response: its label, or its name. -/
  responseKey : String
  name : String
  type : ResolvedType
  label : Option String := none
  arguments : List Argument := []
  description : Option Remark := none
  /-- What is selected of the value of a field of composite type. -/
  selectionSet : Option (SelectionSetOf σ) := none
  /-- The field may be missing from a response because a variable guards it. -/
  conditional : Bool := false
deriving Inhabited

/-- A selection. -/
inductive Selection where
  | field (field : FieldOf Selection)
  | typeCondition (type : NamedType) (set : SelectionSetOf Selection)
  | spread (fragment : String)
  /-- Selections that apply only when a variable is true, or false if `inverted`. -/
  | guarded (flag : String) (inverted : Bool) (set : SelectionSetOf Selection)
deriving Inhabited

/-- A selection set. -/
abbrev SelectionSet := SelectionSetOf Selection

/-- A selected field. -/
abbrev Field := FieldOf Selection

/-- A variable of an operation. -/
structure Variable where
  name : String
  type : ResolvedType
deriving Inhabited

/-- The kinds of operations, as far as classes exist for them. -/
inductive OperationSort where
  | query
  | mutation
  | other (word : String)
deriving DecidableEq, Repr, Inhabited

/-- The kind of operation a word names. -/
def OperationSort.ofWord (word : String) : OperationSort :=
  if word == "query" then .query else if word == "mutation" then .mutation else .other word

/-- The word for a kind of operation. -/
def OperationSort.word : OperationSort → String
  | .query => "query"
  | .mutation => "mutation"
  | .other word => word

/-- A resolved operation. -/
structure Operation where
  name : String
  sort : OperationSort
  parameters : List Variable
  source : String
  set : SelectionSet
  rootType : Option String
deriving Inhabited

/-- A resolved fragment. -/
structure Fragment where
  name : String
  condition : NamedType
  possibleTypes : List String
  set : SelectionSet
  source : String
deriving Inhabited

/-- Everything that a module is generated from. -/
structure Context where
  schema : Schema
  operations : Entries Operation
  fragments : Entries Fragment
  /-- The enums, input objects and custom scalars that the module mentions, in order of first use. -/
  typesUsed : List Schema.TypeDef
  options : Options
deriving Inhabited

/-- The fragment of a name. -/
def Context.fragment (c : Context) (name : String) : Except Fault Fragment :=
  match c.fragments.get? name with
  | some f => .ok f
  | none => .error (.unknownFragment name)

end TypedOperations
