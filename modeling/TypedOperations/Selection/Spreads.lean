import TypedOperations.Selection.Basic

/-!
# Fragment spreads

The fragments that a selection set reaches, in order of first reference, and the replacement of every spread outside
field sub-selections by a type condition that holds the selections of the fragment. Both follow spreads only as deep as
there are fragments: reaching visits each fragment once, and a replacement that goes deeper has met a cycle.
-/

namespace TypedOperations

namespace Spreads

mutual

/-- The names reached so far, with those that a selection reaches; `enter` follows a spread. -/
def reach (enter : List String → String → Except Fault (List String)) (names : List String) :
    Selection → Except Fault (List String)
  | .field ⟨_, _, _, _, _, _, none, _⟩ => .ok names
  | .field ⟨_, _, _, _, _, _, some ⟨_, sels⟩, _⟩ => reachAll enter names sels
  | .typeCondition _ ⟨_, sels⟩ => reachAll enter names sels
  | .spread fragment => enter names fragment
  | .guarded _ _ ⟨_, sels⟩ => reachAll enter names sels

/-- The names reached so far, with those that selections reach one after another. -/
def reachAll (enter : List String → String → Except Fault (List String)) (names : List String) :
    List Selection → Except Fault (List String)
  | [] => .ok names
  | x :: rest =>
    match reach enter names x with
    | .ok names => reachAll enter names rest
    | .error e => .error e

end

/-- A spread followed: a name that was reached changes nothing, a new one is added and its fragment is searched. -/
def enter (c : Context) : Nat → List String → String → Except Fault (List String)
  | 0, names, _ => .ok names
  | fuel + 1, names, name =>
    if names.contains name then .ok names
    else
      match c.fragment name with
      | .ok f => reachAll (enter c fuel) (names ++ [name]) f.set.selections
      | .error e => .error e

mutual

/-- A selection with its spreads replaced by `expand`, within a set of possible types. -/
def merge (expand : List String → String → Except Fault Selection) (possible : List String) :
    Selection → Except Fault Selection
  | .field f => .ok (.field f)
  | .typeCondition t ⟨ts, sels⟩ => do return .typeCondition t ⟨ts, ← mergeAll expand ts sels⟩
  | .spread fragment => expand possible fragment
  | .guarded flag inverted ⟨ts, sels⟩ => do return .guarded flag inverted ⟨ts, ← mergeAll expand ts sels⟩

/-- Selections with their spreads replaced by `expand`, within a set of possible types. -/
def mergeAll (expand : List String → String → Except Fault Selection) (possible : List String) :
    List Selection → Except Fault (List Selection)
  | [] => .ok []
  | x :: rest => do
    let first ← merge expand possible x
    return first :: (← mergeAll expand possible rest)

end

/-- A spread as a type condition: the possible types around it that the fragment can apply to, with the selections of the
fragment, whose own spreads are replaced in turn. -/
def expand (c : Context) : Nat → List String → String → Except Fault Selection
  | 0, _, name => .error (.cyclicFragments name)
  | fuel + 1, possible, name => do
    let f ← c.fragment name
    let narrowed := possible.filter f.possibleTypes.contains
    return .typeCondition f.condition ⟨narrowed, ← mergeAll (expand c fuel) narrowed f.set.selections⟩

end Spreads

/-- The names of the fragments that a selection set reaches through conditions, field sub-selections and the fragments
themselves, in the order of first reference. -/
def Context.fragmentsReached (c : Context) (set : SelectionSet) : Except Fault (List String) :=
  Spreads.reachAll (Spreads.enter c (c.fragments.length + 1)) [] set.selections

/-- The selection set with every spread outside field sub-selections replaced by a type condition. -/
def Context.mergeSpreads (c : Context) (set : SelectionSet) : Except Fault SelectionSet := do
  return ⟨set.possibleTypes,
    ← Spreads.mergeAll (Spreads.expand c (c.fragments.length + 1)) set.possibleTypes set.selections⟩

end TypedOperations
