import TypedOperations.Selection.Conditions

/-!
# Records

Which fields apply to which possible types. The fields of a selection set for some types are those that apply to all of
them, one for every response key; possible types whose fields have the same keys share a record.
-/

namespace TypedOperations

/-- The fields so far with one more occurrence: the first occurrence of a key gives the field its attributes, the
sub-selections follow one another, and the field stays conditional only if every occurrence is. -/
def putField (fields : Entries Field) (f : Field) (conditional : Bool) : Entries Field :=
  let conditional := conditional || f.conditional
  match fields.get? f.responseKey with
  | none => fields.put f.responseKey { f with conditional }
  | some existing =>
    fields.put f.responseKey
      { existing with
        conditional := existing.conditional && conditional
        selectionSet := joinSets existing.selectionSet f.selectionSet }

mutual

/-- The fields so far with those of a selection that apply to all of `types`. -/
def Selection.collect (types : List String) (conditional : Bool) (fields : Entries Field) :
    Selection → Except Fault (Entries Field)
  | .field f => .ok (putField fields f conditional)
  | .typeCondition _ ⟨ts, sels⟩ =>
    if !types.isEmpty && types.all ts.contains then collectAll types conditional fields sels else .ok fields
  | .spread fragment => .error (.unmergedSpread fragment)
  | .guarded _ _ ⟨_, sels⟩ => collectAll types true fields sels

/-- The fields so far with those of selections that apply to all of `types`. -/
def collectAll (types : List String) (conditional : Bool) (fields : Entries Field) :
    List Selection → Except Fault (Entries Field)
  | [] => .ok fields
  | x :: rest =>
    match x.collect types conditional fields with
    | .ok fields => collectAll types conditional fields rest
    | .error e => .error e

end

/-- The fields of a selection set that apply to all of `types`, by response key. -/
def SelectionSetOf.collectFields (set : SelectionSet) (types : List String) (conditional : Bool := false) :
    Except Fault (Entries Field) :=
  collectAll types conditional [] set.selections

/-- Possible types with the fields that apply to each of them. -/
structure Record where
  possibleTypes : List String
  fields : List Field
deriving Inhabited

/-- The records so far with one more possible type: it joins the record with the same keys, or starts one. -/
def addToRecords (records : List Record) (type : String) (fields : Entries Field) : List Record :=
  match records with
  | [] => [⟨[type], fields.values⟩]
  | r :: rest =>
    if r.fields.map (·.responseKey) == fields.names then ⟨r.possibleTypes ++ [type], r.fields⟩ :: rest
    else r :: addToRecords rest type fields

/-- The records of a selection set over the possible types given. -/
def recordsFrom (set : SelectionSet) (records : List Record) : List String → Except Fault (List Record)
  | [] => .ok records
  | t :: rest => do
    let fields ← set.collectFields [t]
    recordsFrom set (addToRecords records t fields) rest

/-- A selection set by records: what applies to every possible type, and the partition of the possible types. -/
structure RecordCase where
  common : Record
  records : List Record
deriving Inhabited

namespace RecordCase

/-- The record case of a selection set without spreads. -/
def ofSet (set : SelectionSet) : Except Fault RecordCase := do
  let fields ← set.collectFields set.possibleTypes
  return ⟨⟨set.possibleTypes, fields.values⟩, ← recordsFrom set [] set.possibleTypes⟩

/-- There is one record, over one possible type. -/
def isMonomorphic (c : RecordCase) : Bool :=
  match c.records with
  | [r] => r.possibleTypes.length == 1
  | _ => false

end RecordCase

end TypedOperations
