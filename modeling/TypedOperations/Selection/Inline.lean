import TypedOperations.Selection.Basic

/-!
# Redundant type conditions

A type condition that holds for every possible type of the set around it says nothing: its selections are put in its
place. Conditions that narrow stay, with their own sets treated the same way.
-/

namespace TypedOperations

/-- All of the first types are among the second. -/
def coveredBy (types cover : List String) : Bool :=
  types.all cover.contains

mutual

/-- What a selection becomes within a set of possible types. -/
def Selection.inlined (possible : List String) : Selection → List Selection
  | .field f => [.field f]
  | .typeCondition t ⟨ts, sels⟩ =>
    if coveredBy possible ts then inlineAll possible sels else [.typeCondition t ⟨ts, inlineAll ts sels⟩]
  | .spread fragment => [.spread fragment]
  | .guarded flag inverted ⟨ts, sels⟩ => [.guarded flag inverted ⟨ts, inlineAll ts sels⟩]

/-- What selections become within a set of possible types. -/
def inlineAll (possible : List String) : List Selection → List Selection
  | [] => []
  | x :: rest => x.inlined possible ++ inlineAll possible rest

end

/-- The selection set without redundant type conditions outside field sub-selections. -/
def SelectionSetOf.inlineRedundant (set : SelectionSet) : SelectionSet :=
  ⟨set.possibleTypes, inlineAll set.possibleTypes set.selections⟩

end TypedOperations
