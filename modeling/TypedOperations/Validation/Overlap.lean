import TypedOperations.Validation.Placement

/-!
# Fields that share a key

Two fields under one response key must be the same field with the same arguments, unless no object can have both, and
their values must have the same shape in any case. Neither may be streamed. The selection sets of a document are numbered,
and which of them were compared with which fragments is kept, so that fragments that are spread again and again are not
compared again and again. A document that needs too many comparisons is refused.
-/

namespace TypedOperations.Validation

open TypedOperations.Language

mutual

/-- The literals are the same up to the order of the fields of objects. -/
def sameLiteral : Literal → Literal → Bool
  | .var a, .var b => a == b
  | .int a, .int b => a == b
  | .float a, .float b => a == b
  | .string a k, .string b l => a == b && k == l
  | .bool a, .bool b => a == b
  | .null, .null => true
  | .enum a, .enum b => a == b
  | .list a, .list b => sameItems a b
  | .object a, .object b => a.length == b.length && sameFields a b
  | _, _ => false

/-- The items are the same, in order. -/
def sameItems : List Literal → List Literal → Bool
  | [], [] => true
  | a :: as, b :: bs => sameLiteral a b && sameItems as bs
  | _, _ => false

/-- Every field of the first object is in the second. -/
def sameFields : List (String × Literal) → List (String × Literal) → Bool
  | [], _ => true
  | (name, v) :: rest, fields =>
    (match fields.find? (·.1 == name) with
      | some (_, w) => sameLiteral v w
      | none => false) && sameFields rest fields

end

/-- The arguments are the same up to their order. -/
def sameArguments (a b : List Argument) : Bool :=
  a.length == b.length && sameFields (a.map fun x => (x.name, x.value)) (b.map fun x => (x.name, x.value))

/-- A field as it is used: the type it is selected on, its key and name, what it is given, and the number of its
selection set. -/
structure FieldUse where
  parent : Option Schema.TypeDef
  key : String
  name : String
  arguments : List Argument
  streamed : Bool
  set : Option Nat

/-- The declared type of a field; meta fields have none. -/
def FieldUse.type (f : FieldUse) : Option (TypeRef String) :=
  f.parent.bind fun p => (p.fields.find? (·.name == f.name)).map (·.type)

/-- What a selection set holds, inline fragments included: its fields by key, and the fragments that it spreads. -/
structure FieldSet where
  fields : Entries (List FieldUse) := []
  spreads : List String := []

namespace FieldSet

/-- The set with one more field. -/
def addField (x : FieldSet) (f : FieldUse) : FieldSet :=
  { x with fields := x.fields.put f.key ((x.fields.get? f.key).getD [] ++ [f]) }

/-- The set with one more spread. -/
def addSpread (x : FieldSet) (fragment : String) : FieldSet :=
  if x.spreads.contains fragment then x else { x with spreads := x.spreads ++ [fragment] }

/-- The set with what another one holds. -/
def join (x y : FieldSet) : FieldSet :=
  y.spreads.foldl addSpread ((y.fields.values.flatten).foldl addField x)

end FieldSet

/-- The selection sets found so far, by number. -/
abbrev Numbering := StateM (Array FieldSet)

/-- The number of a set, which is added to those found. -/
def number (x : FieldSet) : Numbering Nat := do
  let n := (← get).size
  modify (·.push x)
  return n

/-- A field is streamed. -/
def isStreamed (ds : List Directive) : Bool :=
  ds.any (·.name == "stream")

mutual

/-- The set with what a selection adds; the sets in the selection are numbered. -/
def gather (s : Schema) (parent : Option Schema.TypeDef) (found : FieldSet) : Selection → Numbering FieldSet
  | .field label name args ds none => return found.addField ⟨parent, label.getD name, name, args, isStreamed ds, none⟩
  | .field label name args ds (some sub) => do
    let n ← number (← gatherAll s (fieldParent s parent name) {} sub)
    return found.addField ⟨parent, label.getD name, name, args, isStreamed ds, some n⟩
  | .spread fragment _ => return found.addSpread fragment
  | .inline condition _ sub => do
    let inner ← gatherAll s (inlineParent s parent condition) {} sub
    let _ ← number inner
    return found.join inner

/-- The set with what selections add. -/
def gatherAll (s : Schema) (parent : Option Schema.TypeDef) (found : FieldSet) : List Selection → Numbering FieldSet
  | [] => return found
  | x :: rest => do gatherAll s parent (← gather s parent found x) rest

end

/-- The selection sets of a document by number, and the numbers of those of its fragments. -/
structure Sets where
  schema : Schema
  all : Array FieldSet
  fragments : Entries Nat

namespace Sets

/-- The sets of definitions, after those found before. -/
def numbered (s : Schema) : List Definition → Numbering (Entries Nat)
  | [] => return []
  | d :: rest => do
    let n ← number (← gatherAll s (rootOf s d) {} (selectionsOf d))
    let others ← numbered s rest
    return match d with
      | .fragment f => (f.name, n) :: others
      | _ => others

/-- The sets of a document. -/
def ofDocument (s : Schema) (d : Document) : Sets :=
  let (fragments, all) := (numbered s d).run #[]
  ⟨s, all, fragments⟩

/-- The set of a number. -/
def get (x : Sets) (n : Nat) : FieldSet := x.all.getD n {}

end Sets

/-- The types differ in a layer, or in a leaf type. -/
def typesConflict (s : Schema) : TypeRef String → TypeRef String → Bool
  | .list a r, .list b r' => r != r' || typesConflict s a b
  | .named a r, .named b r' => r != r' || (((s.kindOf a).isLeaf || (s.kindOf b).isLeaf) && a != b)
  | _, _ => true

/-- No object can have both fields: they are selected on different object types. -/
def areExclusive (f g : FieldUse) : Bool :=
  match f.parent, g.parent with
  | some p, some q => p.name != q.name && p.kind == .object && q.kind == .object
  | _, _ => false

/-- Two fields under one key cannot both be answered, whatever is selected in them. -/
def fieldsConflict (s : Schema) (exclusive : Bool) (f g : FieldUse) : Bool :=
  (!exclusive && (f.name != g.name || !sameArguments f.arguments g.arguments)) || f.streamed || g.streamed ||
    match f.type, g.type with
    | some t, some u => typesConflict s t u
    | _, _ => false

/-- What was compared with what: for each name, whether the comparison was one of fields that no object has both of. -/
abbrev Comparisons := List (String × Bool)

/-- A comparison was made before. One of fields that an object may have both of covers the other kind. -/
def Comparisons.cover (known : Comparisons) (name : String) (exclusive : Bool) : Bool :=
  match known.lookup name with
  | some e => exclusive || !e
  | none => false

/-- The comparisons made so far: of the fields of sets with fragments, of fragments with fragments, and how often two
fields were compared. -/
structure Compared where
  sets : Array Comparisons
  fragments : Entries Comparisons := []
  count : Nat := 0

/-- A step of the check: whether a conflict is found. -/
abbrev Check := StateM Compared Bool

/-- The most comparisons of two fields that are made. -/
def maxComparisons : Nat := 250000

/-- The fields of a set are compared with a fragment; nothing is found if they were before. -/
def onceForSet (n : Nat) (fragment : String) (exclusive : Bool) (check : Check) : Check := do
  let known := (← get).sets.getD n []
  if known.cover fragment exclusive then return false
  modify fun c => { c with sets := c.sets.setIfInBounds n ((fragment, exclusive) :: known) }
  check

/-- Two fragments are compared; nothing is found if they were before. -/
def onceForFragments (a b : String) (exclusive : Bool) (check : Check) : Check := do
  let (first, second) := if decide (a < b) then (a, b) else (b, a)
  let known := ((← get).fragments.get? first).getD []
  if known.cover second exclusive then return false
  modify fun c => { c with fragments := c.fragments.put first ((second, exclusive) :: known) }
  check

/-- Some item leads to a conflict. -/
def anyOf {α : Type} (check : α → Check) : List α → Check
  | [] => return false
  | a :: rest => do if ← check a then return true else anyOf check rest

/-- A conflict is found by the first check or by the second. -/
def orElse (first second : Check) : Check := do
  if ← first then return true else second

mutual

/-- Two fields under one key cannot both be answered. `exclusive` says that no object has both of the fields they are
selected in; `fuel` bounds how deep sets and fragments are followed. -/
def conflict (x : Sets) (fuel : Nat) (exclusive : Bool) (f g : FieldUse) : Check := do
  match fuel with
  | 0 => return false
  | fuel + 1 =>
    modify fun c => { c with count := c.count + 1 }
    if maxComparisons < (← get).count then return true
    let exclusive := exclusive || areExclusive f g
    if fieldsConflict x.schema exclusive f g then return true
    match f.set, g.set with
    | some a, some b => setsConflict x fuel exclusive a b
    | _, _ => return false

/-- Some field of one set conflicts with one of another set, fragments included. -/
def setsConflict (x : Sets) (fuel : Nat) (exclusive : Bool) (a b : Nat) : Check :=
  match fuel with
  | 0 => return false
  | fuel + 1 =>
    orElse (fieldMapsConflict x fuel exclusive a b) <|
    orElse (anyOf (setConflictsWith x fuel exclusive a) (x.get b).spreads) <|
    orElse (anyOf (setConflictsWith x fuel exclusive b) (x.get a).spreads) <|
    anyOf (fun p => anyOf (fragmentsConflict x fuel exclusive p) (x.get b).spreads) (x.get a).spreads

/-- Some field of one set conflicts with one of another set, fragments left aside. -/
def fieldMapsConflict (x : Sets) (fuel : Nat) (exclusive : Bool) (a b : Nat) : Check :=
  match fuel with
  | 0 => return false
  | fuel + 1 =>
    anyOf (fun (key, fs) =>
      let gs := ((x.get b).fields.get? key).getD []
      anyOf (fun f => anyOf (conflict x fuel exclusive f) gs) fs) (x.get a).fields

/-- Some field of a set conflicts with one of a fragment, or of the fragments that it spreads. -/
def setConflictsWith (x : Sets) (fuel : Nat) (exclusive : Bool) (a : Nat) (fragment : String) : Check :=
  match fuel with
  | 0 => return false
  | fuel + 1 =>
    onceForSet a fragment exclusive <|
      match x.fragments.get? fragment with
      | none => return false
      | some b =>
        if a == b then return false
        else orElse (fieldMapsConflict x fuel exclusive a b) <|
          anyOf (setConflictsWith x fuel exclusive a) (x.get b).spreads

/-- Some field of a fragment conflicts with one of another fragment, or of the fragments that the two spread. -/
def fragmentsConflict (x : Sets) (fuel : Nat) (exclusive : Bool) (p q : String) : Check :=
  match fuel with
  | 0 => return false
  | fuel + 1 =>
    if p == q then return false
    else onceForFragments p q exclusive <|
      match x.fragments.get? p, x.fragments.get? q with
      | some a, some b =>
        orElse (fieldMapsConflict x fuel exclusive a b) <|
        orElse (anyOf (fragmentsConflict x fuel exclusive p) (x.get b).spreads) <|
        anyOf (fun r => fragmentsConflict x fuel exclusive r q) (x.get a).spreads
      | _, _ => return false

end

/-- Some two of the items lead to a conflict. -/
def anyPair {α : Type} (check : α → α → Check) : List α → Check
  | [] => return false
  | a :: rest => orElse (anyOf (check a) rest) (anyPair check rest)

/-- Some field of a set conflicts with the fragments, or some fragment with a later one. -/
def anySpread (x : Sets) (fuel : Nat) (n : Nat) : List String → Check
  | [] => return false
  | p :: rest =>
    orElse (setConflictsWith x fuel false n p) <|
    orElse (anyOf (fragmentsConflict x fuel false p) rest) (anySpread x fuel n rest)

/-- Some two fields of a set cannot both be answered. -/
def conflictIn (x : Sets) (fuel : Nat) (n : Nat) : Check :=
  orElse (anyOf (fun (_, fs) => anyPair (conflict x fuel false) fs) (x.get n).fields) <|
    anySpread x fuel n (x.get n).spreads

/-- Some two fields of a set of the document cannot both be answered, or that takes too long to find out. Every few steps
at least one of two sets is left for one deeper in the document, which bounds the steps. -/
def Sets.conflicts (x : Sets) : Bool :=
  ((anyOf (conflictIn x (8 * (x.all.size + 1))) (List.range x.all.size)).run ⟨x.all.map fun _ => [], [], 0⟩).1

end TypedOperations.Validation
