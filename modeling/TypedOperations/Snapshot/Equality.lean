import TypedOperations.Snapshot.Heap

/-!
# Equality of snapshots

Plain values are compared by their value, maps without regard to order. Inside maps and lists one object is equal to itself.
The comparison of objects that contain themselves may not end, which is an answer of its own.
-/

namespace TypedOperations

namespace Heap

/-- All pairs of places are equal; no answer if a comparison that is needed does not end. -/
def allEqual (equal : Item → Item → Option Bool) : List Item → List Item → Option Bool
  | [], [] => some true
  | i :: is, j :: js =>
    if i == j then allEqual equal is js
    else do if ← equal i j then allEqual equal is js else return false
  | _, _ => some false

/-- The second entries have every entry of the first. -/
def entriesEqual (equal : Item → Item → Option Bool) : Keyed Item → Keyed Item → Option Bool
  | [], _ => some true
  | (k, i) :: rest, entries =>
    match entries.get? k with
    | none => some false
    | some j =>
      if i == j then entriesEqual equal rest entries
      else do if ← equal i j then entriesEqual equal rest entries else return false

/-- The objects in two places are equal; no answer if `fuel` runs out. -/
def equalAt (h : Heap) : Nat → Item → Item → Option Bool
  | _, .scalar a _, .scalar b _ => some (a.equals b)
  | 0, .object _, .object _ => none
  | fuel + 1, .object a, .object b =>
    match h.get? a, h.get? b with
    | some (.keyed es), some (.keyed fs) =>
      if es.length == fs.length then entriesEqual (h.equalAt fuel) es fs else some false
    | some (.list is), some (.list js) => if is.length == js.length then allEqual (h.equalAt fuel) is js else some false
    | some (.input c m), some (.input d n) => if c == d then h.equalAt fuel m n else some false
    | some (.view c m), some (.view d n) => if c == d then h.equalAt fuel m n else some false
    | _, _ => some false
  | _, _, _ => some false

/-- The objects in two places are equal; no answer if their comparison comes back to where it was. -/
def equal (h : Heap) (i j : Item) : Option Bool :=
  h.equalAt (h.depthBound * h.depthBound) i j

end Heap

/-- Two values that share no object are equal. -/
def Value.equals (a b : Value) : Option Bool :=
  let (h, i) := ({} : Heap).alloc a
  let (h, j) := h.alloc b
  h.equal i j

end TypedOperations
