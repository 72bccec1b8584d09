import TypedOperations.Selection.Basic

/-!
# Type conditions by type

The type conditions of a selection list, one entry for every type they name. Conditions under guards count, with their
selections inside the same guards, and conditions on one type are joined.
-/

namespace TypedOperations

/-- Two optional selection sets over the same type, one after the other. -/
def joinSets : Option SelectionSet → Option SelectionSet → Option SelectionSet
  | none, second => second
  | some first, none => some first
  | some first, some second => some ⟨first.possibleTypes, first.selections ++ second.selections⟩

/-- A type condition: its type and its set. -/
structure TypeCondition where
  type : NamedType
  set : SelectionSet
deriving Inhabited

namespace TypeCondition

/-- The condition with the selections of another one on the same type after its own. -/
def join (first second : TypeCondition) : TypeCondition :=
  ⟨first.type, ⟨first.set.possibleTypes, first.set.selections ++ second.set.selections⟩⟩

/-- The condition with its selections inside a guard. -/
def guarded (flag : String) (inverted : Bool) (c : TypeCondition) : TypeCondition :=
  ⟨c.type, ⟨c.set.possibleTypes, [.guarded flag inverted c.set]⟩⟩

/-- The entries with one more condition, joined to the one on the same type if there is one. -/
def insert (entries : Entries TypeCondition) (c : TypeCondition) : Entries TypeCondition :=
  match entries.get? c.type.name with
  | none => entries.put c.type.name c
  | some existing => entries.put c.type.name (existing.join c)

end TypeCondition

mutual

/-- The type conditions that a selection is or guards. -/
def Selection.conditions : Selection → List TypeCondition
  | .field _ => []
  | .typeCondition t set => [⟨t, set⟩]
  | .spread _ => []
  | .guarded flag inverted ⟨_, sels⟩ => (conditionsFrom [] sels).values.map (.guarded flag inverted)

/-- The type conditions of selections, after those in `entries`. -/
def conditionsFrom (entries : Entries TypeCondition) : List Selection → Entries TypeCondition
  | [] => entries
  | x :: rest => conditionsFrom (x.conditions.foldl TypeCondition.insert entries) rest

end

/-- The type conditions of a selection list by type, in the order of first occurrence. -/
def typeConditions (selections : List Selection) : Entries TypeCondition :=
  conditionsFrom [] selections

end TypedOperations
