import TypedOperations.Snapshot.Equality
import TypedOperations.Snapshot.Text

/-!
# Views over snapshots

A store holds a heap and the views on it by name. Views are made over new snapshots, over the snapshot of another view or
over what a snapshot holds; keys are written, and the contents of a snapshot are replaced in place, so that every view on
it sees them.
-/

namespace TypedOperations

/-- The kinds of views. -/
inductive ViewKind where
  | container
  | selectionSet
  | fragment
deriving DecidableEq, Repr, Inhabited

/-- A view: its class and the place of its snapshot. -/
structure View where
  className : String
  kind : ViewKind
  snapshot : Item
deriving DecidableEq, Repr, Inhabited

/-- A heap with the views on it. -/
structure Store where
  heap : Heap := {}
  views : Entries View := []
deriving DecidableEq, Repr, Inhabited

/-- Why a step cannot be taken. -/
inductive StoreError where
  | unknownView (id : String)
  | unknownKey (key : String)
  /-- A snapshot that is not a map has no keys. -/
  | noKeys
  /-- A list has no item at an index. -/
  | outOfRange
  /-- What a view holds, or the view itself, lacks something that only some have. -/
  | noAttribute
  /-- The new contents are not entries. -/
  | notEntries
  /-- One of the new contents has the wrong length for an entry. -/
  | notAPair (index length : Nat)
  /-- What is asked for never ends. -/
  | endless
deriving DecidableEq, Repr

/-- The wording of an error. -/
def StoreError.message : StoreError → String
  | .unknownView id => id
  | .unknownKey key => key
  | .notAPair index length =>
    "dictionary update sequence element #" ++ toString index ++ " has length " ++ toString length ++ "; 2 is required"
  | .noKeys => "The snapshot has no keys"
  | .outOfRange => "The list is too short"
  | .noAttribute => "There is no such attribute"
  | .notEntries => "The contents are not entries"
  | .endless => "An object contains itself"

namespace Heap

/-- A place as a key; maps, lists and objects are not keys. -/
def keyOf : Item → Except StoreError Key
  | .scalar v identity => .ok ⟨v, identity⟩
  | .object _ => .error .notEntries

/-- Two characters as an entry. -/
def entryOfText (h : Heap) (index : Nat) (s : String) : Except StoreError (Heap × Key × Item) :=
  match s.toList with
  | [a, b] =>
    let (h, key) := h.addKey (.string (String.singleton a))
    let (h, item) := h.addScalar (.string (String.singleton b))
    .ok (h, key, item)
  | cs => .error (.notAPair index cs.length)

/-- Two bytes as an entry of their numbers. -/
def entryOfBytes (h : Heap) (index : Nat) (letters : String) : Except StoreError (Heap × Key × Item) :=
  match letters.toList with
  | [a, b] => .ok (h, ⟨.int a.toNat, 0⟩, .scalar (.int b.toNat) 0)
  | cs => .error (.notAPair index cs.length)

/-- One of the new contents as an entry. -/
def entryOf (h : Heap) (index : Nat) : Item → Except StoreError (Heap × Key × Item)
  | .scalar (.string s) _ => h.entryOfText index s
  | .scalar (.member _ _ wire) _ => h.entryOfText index wire
  | .scalar (.bytes letters) _ => h.entryOfBytes index letters
  | .scalar _ _ => .error .notEntries
  | .object address =>
    match h.get? address with
    | some (.list [k, v]) => do return (h, ← keyOf k, v)
    | some (.list items) => .error (.notAPair index items.length)
    | some (.keyed [(k, _), (v, _)]) => .ok (h, k, .scalar v.value v.identity)
    | some (.keyed entries) => .error (.notAPair index entries.length)
    | _ => .error .notEntries

/-- New contents as entries, one after another. -/
def entriesFrom (h : Heap) (index : Nat) (found : Keyed Item) : List Item → Except StoreError (Heap × Keyed Item)
  | [] => .ok (h, found)
  | i :: rest => do
    let (h, k, v) ← h.entryOf index i
    h.entriesFrom (index + 1) (found.put k v) rest

/-- The entries of nothing, where there is nothing to make entries of. -/
def noEntries (h : Heap) (isEmpty : Bool) (e : StoreError) : Except StoreError (Heap × Keyed Item) :=
  if isEmpty then .ok (h, []) else .error e

/-- What a place holds as the contents of a map. -/
def entriesAt (h : Heap) : Item → Except StoreError (Heap × Keyed Item)
  | .object address =>
    match h.get? address with
    | some (.keyed entries) => .ok (h, entries)
    | some (.list items) => h.entriesFrom 0 [] items
    | _ => .error .notEntries
  | .scalar (.string s) _ => h.noEntries s.isEmpty (.notAPair 0 1)
  | .scalar (.member _ _ wire) _ => h.noEntries wire.isEmpty (.notAPair 0 1)
  | .scalar (.bytes letters) _ => h.noEntries letters.isEmpty .notEntries
  | .scalar _ _ => .error .notEntries

/-- The heap with the contents of what a place holds replaced: a map takes the new contents, a list is emptied before it
turns out not to take them. -/
def replaceAt (h : Heap) (place : Item) (contents : Keyed Item) : Heap × Option StoreError :=
  match place with
  | .object address =>
    match h.get? address with
    | some (.keyed _) => (h.set address (.keyed contents), none)
    | some (.list _) => (h.set address (.list []), some .noAttribute)
    | _ => (h, some .noAttribute)
  | .scalar _ _ => (h, some .noAttribute)

/-- The heap with the contents at `place` replaced by those at `source`, unless they are the same object. -/
def replace (h : Heap) (place source : Item) : Heap × Option StoreError :=
  if source == place then (h, none)
  else
    match h.entriesAt source with
    | .ok (h, contents) => h.replaceAt place contents
    | .error e => (h, some e)

/-- The place in a list of so many items that a key means; a negative number counts from the end. -/
def indexOf (size : Nat) (key : Scalar) : Except StoreError Nat :=
  match key.asInt? with
  | none => .error .noKeys
  | some i =>
    let i := if i < 0 then i + size else i
    if 0 ≤ i && i < size then .ok i.toNat else .error .outOfRange

/-- The heap with what the map or list in a place holds under a key written. -/
def write (h : Heap) (place : Item) (key : Scalar) (value : Item) : Except StoreError Heap :=
  match place with
  | .object address =>
    match h.get? address with
    | some (.keyed entries) =>
      let (h, key) := h.addKey key
      .ok (h.set address (.keyed (entries.put key value)))
    | some (.list items) => do return h.set address (.list (items.set (← indexOf items.length key) value))
    | _ => .error .noKeys
  | .scalar _ _ => .error .noKeys

/-- One of the items that a key means. -/
def itemAt (items : List Item) (key : Scalar) : Except StoreError Item := do
  let n ← indexOf items.length key
  match items[n]? with
  | some item => return item
  | none => throw .outOfRange

/-- The characters of a text as items. -/
def characters (s : String) : List Item :=
  s.toList.map fun c => .scalar (.string c.toString) 0

/-- What the map, list or text in a place holds under a key. -/
def lookup (h : Heap) (place : Item) (key : Scalar) : Except StoreError Item :=
  match place with
  | .object address =>
    match h.get? address with
    | some (.keyed entries) => (entries.get? ⟨key, 0⟩).elim (.error (.unknownKey key.shown)) .ok
    | some (.list items) => itemAt items key
    | _ => .error .noKeys
  | .scalar (.string s) _ => itemAt (characters s) key
  | .scalar (.member _ _ wire) _ => itemAt (characters wire) key
  | .scalar (.bytes letters) _ => itemAt (letters.toList.map fun c => .scalar (.int c.toNat) 0) key
  | .scalar _ _ => .error .noKeys

end Heap

namespace Store

/-- The view of a name. -/
def view (s : Store) (id : String) : Except StoreError View :=
  (s.views.get? id).elim (.error (.unknownView id)) .ok

/-- The store with a view. -/
def addView (s : Store) (id className : String) (kind : ViewKind) (snapshot : Item) : Store :=
  { s with views := s.views.put id ⟨className, kind, snapshot⟩ }

end Store

/-- A step. -/
inductive StoreStep where
  /-- A view on a new snapshot. -/
  | create (id className : String) (kind : ViewKind) (snapshot : Value)
  /-- A view on the snapshot of another view. -/
  | share (id className : String) (kind : ViewKind) (of : String)
  /-- A view on what the snapshot of another view holds under a key. -/
  | child (id className : String) (kind : ViewKind) (of : String) (key : Scalar)
  /-- A new value under a key. -/
  | write (of : String) (key : Scalar) (value : Value)
  /-- The snapshot of a view under a key. -/
  | writeView (of : String) (key : Scalar) (source : String)
  /-- New contents. -/
  | replace (of : String) (value : Value)
  /-- The contents of the snapshot of another view. -/
  | replaceFrom (of source : String)
deriving Inhabited

namespace Store

/-- The store with the contents of the snapshot of a view replaced by those in a place of a heap that extends its own. -/
def replace (s : Store) (v : View) (heap : Heap) (source : Item) : Store × Option StoreError :=
  let (heap, e) := heap.replace v.snapshot source
  ({ s with heap }, e)

/-- The store after a step, or why it cannot be taken. -/
def take (s : Store) : StoreStep → Except StoreError (Store × Option StoreError)
  | .create id className kind value =>
    let (heap, item) := s.heap.alloc value
    .ok (({ s with heap } : Store).addView id className kind item, none)
  | .share id className kind of => do
    let v ← s.view of
    return (s.addView id className kind v.snapshot, none)
  | .child id className kind of key => do
    let v ← s.view of
    return (s.addView id className kind (← s.heap.lookup v.snapshot key), none)
  | .write of key value => do
    let v ← s.view of
    let (heap, item) := s.heap.alloc value
    return ({ s with heap := ← heap.write v.snapshot key item }, none)
  | .writeView of key source => do
    let w ← s.view source
    let v ← s.view of
    return ({ s with heap := ← s.heap.write v.snapshot key w.snapshot }, none)
  | .replace of value => do
    let v ← s.view of
    let (heap, item) := s.heap.alloc value
    return s.replace v heap item
  | .replaceFrom of source => do
    let v ← s.view of
    let w ← s.view source
    return s.replace v s.heap w.snapshot

/-- The store after a step, and the error if there was one; a step that cannot be taken changes nothing. -/
def step (s : Store) (x : StoreStep) : Store × Option StoreError :=
  match s.take x with
  | .ok r => r
  | .error e => (s, some e)

/-- The store after steps; errors stop nothing. -/
def run (s : Store) (xs : List StoreStep) : Store :=
  xs.foldl (fun s x => (s.step x).1) s

/-- The snapshots of all views; no answer if one contains itself. -/
def snapshots (s : Store) : Option (List (String × Snapshot)) :=
  s.views.mapM fun e => (s.heap.read e.2.snapshot).map fun v => (e.1, v)

/-- Two views are equal: they have one class and equal snapshots. -/
def equal (s : Store) (a b : String) : Except StoreError Bool := do
  let v ← s.view a
  let w ← s.view b
  if v.className == w.className && v.kind == w.kind then
    (s.heap.equal v.snapshot w.snapshot).elim (.error .endless) .ok
  else return false

/-- Two views have the same snapshot object. -/
def same (s : Store) (a b : String) : Except StoreError Bool := do
  let v ← s.view a
  let w ← s.view b
  return v.snapshot == w.snapshot

/-- The text of a view. -/
def text (s : Store) (id : String) : Except StoreError String := do
  let v ← s.view id
  return v.className ++ "(" ++ s.heap.text v.snapshot ++ ")"

/-- The type name that the snapshot of a view holds. -/
def typename (s : Store) (id : String) : Except StoreError Snapshot := do
  let v ← s.view id
  match v.kind, s.heap.lookup v.snapshot (.string "__typename") with
  | .container, _ => throw .noAttribute
  | _, .ok item => (s.heap.read item).elim (.error .endless) .ok
  | _, .error (.unknownKey _) => return .plain .null
  | _, .error _ => throw .noAttribute

end Store

end TypedOperations
