import TypedOperations.Schema.PartFault
import TypedOperations.Validation.Delivery

/-!
# Root fields of subscriptions

A subscription selects one field at its root. The root fields are found by following inline fragments and spreads that
apply to the root type; what is deferred is found too, and its deferral must be one that can be read.
-/

namespace TypedOperations.Validation

open TypedOperations.Language

/-- The root fields of a subscription by response key with their names, how many there are with repetitions, and whether a
condition stands among them. -/
structure RootFields where
  followed : List String := []
  fields : Entries String := []
  count : Nat := 0
  conditional : Bool := false

/-- The directives hold a condition. -/
def holdsCondition (ds : List Directive) : Bool :=
  ds.any fun d => d.name == "skip" || d.name == "include"

/-- A type condition applies to an object type. -/
def applies (s : Schema) (type : String) (condition : Option String) : Bool :=
  condition.elim true fun c => c == type || s.covers c type

/-- What is wrong with the values that a deferral among directives is given: a condition that is not a truth value, or a
label that is not a text. Variables are not looked at. -/
def deferralFault? (ds : List Directive) : Option Schema.DirectiveFault := do
  let d ← ds.find? (·.name == "defer")
  let last (name : String) : Option Argument := d.arguments.reverse.find? (·.name == name)
  ((last "if").bind condition).or ((last "label").bind label)
where
  /-- What is wrong with a condition. -/
  condition (a : Argument) : Option Schema.DirectiveFault :=
    match a.value with
    | .var _ => none
    | .bool _ => none
    | .null => some (.null a.name "Boolean" a.tokensLeft)
    | _ => some (Schema.unfit "Boolean" a)
  /-- What is wrong with a label. -/
  label (a : Argument) : Option Schema.DirectiveFault :=
    match a.value with
    | .var _ => none
    | .null => none
    | .string .. => none
    | _ => some (Schema.unfit "String" a)

/-- The root fields, or why they cannot be found. -/
abbrev Found := Except Schema.DirectiveFault RootFields

/-- The root fields are found further unless the deferral among directives cannot be read. -/
def unlessUnfit (ds : List Directive) (found : Found) : Found :=
  (deferralFault? ds).elim found .error

mutual

/-- The root fields with those of a selection; `follow` adds those of a spread fragment. A selection under a condition is
not followed. -/
def rootField (s : Schema) (type : String) (follow : RootFields → String → List Directive → Found) (found : RootFields) :
    Selection → Found
  | .field label name _ ds _ =>
    if holdsCondition ds then .ok { found with conditional := true }
    else
      let key := label.getD name
      .ok { found with
        fields := if found.fields.has key then found.fields else found.fields.put key name
        count := found.count + 1 }
  | .spread fragment ds => follow found fragment ds
  | .inline condition ds sub =>
    if holdsCondition ds then .ok { found with conditional := true }
    else if applies s type condition then unlessUnfit ds (rootFields s type follow found sub)
    else .ok found

/-- The root fields with those of selections. -/
def rootFields (s : Schema) (type : String) (follow : RootFields → String → List Directive → Found) (found : RootFields) :
    List Selection → Found
  | [] => .ok found
  | x :: rest => do rootFields s type follow (← rootField s type follow found x) rest

end

namespace Subject

/-- The root fields with those of a fragment that was not followed yet, spread with directives. -/
def followRoot (x : Subject) (type : String) : Nat → RootFields → String → List Directive → Found
  | 0, found, _, _ => .ok found
  | fuel + 1, found, name, ds =>
    if found.followed.contains name then .ok found
    else if holdsCondition ds then .ok { found with conditional := true }
    else
      match x.fragments.get? name with
      | some f =>
        if applies x.schema type (some f.condition) then
          let found := { found with followed := name :: found.followed }
          unlessUnfit ds (rootFields x.schema type (x.followRoot type fuel) found f.selections)
        else .ok found
      | none => .ok found

/-- The root fields of an operation, if it is a subscription that can be executed. -/
def subscribed? (x : Subject) (o : OperationDefinition) : Option Found :=
  match o.kind, x.schema.subscription with
  | .subscription, some type =>
    some (rootFields x.schema type (x.followRoot type (x.document.length + 1)) {} o.selections)
  | _, _ => none

/-- A subscription selects one field at its root, which is not a meta field and stands under no condition. -/
def selectsOneField (x : Subject) (o : OperationDefinition) : Bool :=
  match x.subscribed? o with
  | some (.ok found) =>
    !found.conditional && found.fields.length == 1 && found.fields.all fun (_, name) => !Schema.isReservedName name
  | some (.error _) => false
  | none => true

/-- How many root fields the subscriptions of the document have, repetitions included. -/
def rootFieldCount (x : Subject) : Nat :=
  x.operations.foldl (fun n o =>
    match x.subscribed? o with
    | some (.ok found) => n + found.count
    | _ => n) 0

end Subject

end TypedOperations.Validation
