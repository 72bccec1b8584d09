import TypedOperations.Snapshot.Heap

/-!
# The text of snapshots

The text that shows what a place holds. A map or list inside itself is shown by three dots.
-/

namespace TypedOperations.Heap

/-- The text of what a place holds, inside the maps and lists in `around`; `fuel` bounds how deep it nests. -/
def textAt (h : Heap) : Nat → List Nat → Item → String
  | _, _, .scalar v _ => v.toValue.text
  | 0, _, .object _ => "..."
  | fuel + 1, around, .object address =>
    match h.get? address with
    | none => ""
    | some (.keyed entries) =>
      if around.contains address then "\x7b...\x7d"
      else Value.keyedText (entries.map fun (k, i) => k.value.toValue.text ++ ": " ++ h.textAt fuel (address :: around) i)
    | some (.list items) =>
      if around.contains address then "[...]"
      else "[" ++ String.intercalate ", " (items.map (h.textAt fuel (address :: around))) ++ "]"
    | some (.input className map) => className ++ "(" ++ h.textAt fuel around map ++ ")"
    | some (.view className snapshot) => className ++ "(" ++ h.textAt fuel around snapshot ++ ")"

/-- The text of what a place holds. -/
def text (h : Heap) (i : Item) : String :=
  h.textAt (2 * h.depthBound + 1) [] i

end TypedOperations.Heap
