import TypedOperations.Selection.Basic

/-!
# How deep selections nest

The number of fields with sub-selections and of type conditions on the way to the innermost selection. Spreads are not
followed, so the depth of a whole context bounds what one fragment adds to a chain of fragments.
-/

namespace TypedOperations

mutual

/-- The depth of a selection. -/
def Selection.depth : Selection → Nat
  | .field ⟨_, _, _, _, _, _, none, _⟩ => 0
  | .field ⟨_, _, _, _, _, _, some ⟨_, sels⟩, _⟩ => depthOfAll sels + 1
  | .typeCondition _ ⟨_, sels⟩ => depthOfAll sels + 1
  | .spread _ => 0
  | .guarded _ _ ⟨_, sels⟩ => depthOfAll sels

/-- The greatest depth of selections. -/
def depthOfAll : List Selection → Nat
  | [] => 0
  | x :: rest => max x.depth (depthOfAll rest)

end

/-- The depth of a selection set. -/
def SelectionSetOf.depth (set : SelectionSet) : Nat :=
  depthOfAll set.selections

/-- The greatest depth of an operation or fragment. -/
def Context.depth (c : Context) : Nat :=
  let sets := c.operations.values.map (·.set) ++ c.fragments.values.map (·.set)
  (sets.map (·.depth)).foldl max 0

/-- More than the depth that selections of the context reach when acyclic spreads are followed. -/
def Context.depthBound (c : Context) : Nat :=
  (c.depth + 1) * (c.fragments.length + 1) + 1

end TypedOperations
