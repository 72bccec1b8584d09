import TypedOperations.Snapshot.Keyed

/-!
# The heap of snapshots

Snapshots are objects that can be shared: a map can stand in several places at once, also inside itself, and what is
written to it is seen in all of them. A heap gives every map, list and object an address; places hold addresses or plain
values. Values are put on the heap with fresh addresses, and what a place holds is read back as a snapshot.
-/

namespace TypedOperations

/-- What a place holds: a plain value with the identity of its object, which is zero if there is only one, or the address
of an object on the heap. -/
inductive Item where
  | scalar (value : Scalar) (identity : Nat)
  | object (address : Nat)
deriving DecidableEq, Repr, Inhabited

/-- An object on the heap. -/
inductive Cell where
  | keyed (entries : Keyed Item)
  | list (items : List Item)
  | input (className : String) (map : Item)
  | view (className : String) (snapshot : Item)
deriving DecidableEq, Repr, Inhabited

/-- A heap: its objects by address, and how many identities plain values were given. -/
structure Heap where
  cells : List Cell := []
  identities : Nat := 0
deriving DecidableEq, Repr, Inhabited

namespace Heap

/-- The object at an address. -/
def get? (h : Heap) (address : Nat) : Option Cell :=
  h.cells[address]?

/-- The heap with one more object, and its address. -/
def add (h : Heap) (c : Cell) : Heap × Nat :=
  ({ h with cells := h.cells ++ [c] }, h.cells.length)

/-- The heap with the object at an address replaced. -/
def set (h : Heap) (address : Nat) (c : Cell) : Heap :=
  { h with cells := h.cells.set address c }

/-- The heap with an object for a plain value. -/
def addScalar (h : Heap) (v : Scalar) : Heap × Item :=
  if v.isUnique then (h, .scalar v 0)
  else ({ h with identities := h.identities + 1 }, .scalar v (h.identities + 1))

/-- The heap with an object for a plain value, as a key. -/
def addKey (h : Heap) (v : Scalar) : Heap × Key :=
  if v.isUnique then (h, ⟨v, 0⟩) else ({ h with identities := h.identities + 1 }, ⟨v, h.identities + 1⟩)

/-- The heap with one more object, and the place that holds it. -/
def addObject (h : Heap) (c : Cell) : Heap × Item :=
  let (h, address) := h.add c
  (h, .object address)

mutual

/-- The heap with a value, and the place that holds it. -/
def alloc (h : Heap) : Value → Heap × Item
  | .null => h.addScalar .null
  | .bool b => h.addScalar (.bool b)
  | .int i => h.addScalar (.int i)
  | .float x => h.addScalar (.float x)
  | .string s => h.addScalar (.string s)
  | .var name => h.addScalar (.var name)
  | .boundVar name => h.addScalar (.boundVar name)
  | .member enum name wire => h.addScalar (.member enum name wire)
  | .bytes letters => h.addScalar (.bytes letters)
  | .list items =>
    let (h, items) := h.allocAll items
    h.addObject (.list items)
  | .keyed entries =>
    let (h, entries) := h.allocEntries entries
    h.addObject (.keyed entries)
  | .input className entries =>
    let (h, entries) := h.allocEntries entries
    let (h, map) := h.addObject (.keyed entries)
    h.addObject (.input className map)
  | .view className snapshot =>
    let (h, item) := h.alloc snapshot
    h.addObject (.view className item)

/-- The heap with values, and the places that hold them. -/
def allocAll (h : Heap) : List Value → Heap × List Item
  | [] => (h, [])
  | v :: rest =>
    let (h, item) := h.alloc v
    let (h, items) := h.allocAll rest
    (h, item :: items)

/-- The heap with entries, and the places that hold their values. -/
def allocEntries (h : Heap) : List (String × Value) → Heap × Keyed Item
  | [] => (h, [])
  | (k, v) :: rest =>
    let (h, key) := h.addKey (.string k)
    let (h, item) := h.alloc v
    let (h, items) := h.allocEntries rest
    (h, (key, item) :: items)

end

/-- More than the number of objects on any way through the heap that meets no object twice. -/
def depthBound (h : Heap) : Nat := h.cells.length + 1

end Heap

/-- What a place holds, as a tree. -/
inductive Snapshot where
  | plain (value : Scalar)
  | list (items : List Snapshot)
  | keyed (entries : List (Scalar × Snapshot))
  | input (className : String) (entries : List (Scalar × Snapshot))
  | view (className : String) (snapshot : Snapshot)
deriving Inhabited

namespace Heap

/-- What a place holds, unless it contains itself; `fuel` bounds how deep it nests. -/
def readAt (h : Heap) : Nat → Item → Option Snapshot
  | _, .scalar v _ => some (.plain v)
  | 0, .object _ => none
  | fuel + 1, .object address =>
    match h.get? address with
    | none => none
    | some (.keyed entries) => (entries.mapM fun e => (h.readAt fuel e.2).map fun v => (e.1.value, v)).map .keyed
    | some (.list items) => (items.mapM (h.readAt fuel)).map .list
    | some (.input className map) =>
      match h.readAt fuel map with
      | some (.keyed entries) => some (.input className entries)
      | _ => none
    | some (.view className snapshot) => (h.readAt fuel snapshot).map (.view className)

/-- What a place holds, unless it contains itself. -/
def read (h : Heap) (i : Item) : Option Snapshot :=
  h.readAt (2 * h.depthBound) i

end Heap

end TypedOperations
