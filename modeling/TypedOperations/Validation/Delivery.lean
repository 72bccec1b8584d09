import TypedOperations.Validation.Subject

/-!
# Parts that are delivered later

The directives `@defer` and `@stream` ask for parts of an answer to be delivered later. Only lists can be streamed, the
root fields of mutations and subscriptions are not delivered later, nothing in a subscription is unless it can be switched
off, and no label is used twice.
-/

namespace TypedOperations.Validation

open TypedOperations.Language

/-- The directive asks for later delivery. -/
def isDelivery (d : Directive) : Bool :=
  d.name == "defer" || d.name == "stream"

/-- The argument of a directive. -/
def argument? (d : Directive) (name : String) : Option Literal :=
  (d.arguments.find? (·.name == name)).map (·.value)

/-- The condition of a directive is the truth value given, or can be. -/
def conditionCanBe (b : Bool) (d : Directive) : Bool :=
  match argument? d "if" with
  | some (.bool c) => b == c
  | some (.var _) => true
  | _ => false

/-- The directives can leave out the selection that they stand at. -/
def canLeaveOut (ds : List Directive) : Bool :=
  ds.any fun d => (d.name == "skip" && conditionCanBe true d) || (d.name == "include" && conditionCanBe false d)

mutual

/-- The selection and those in it that stand at the same level: not the ones in fields. -/
def sameLevel : Selection → List Selection
  | .inline condition ds sub => .inline condition ds sub :: allSameLevel sub
  | s => [s]

/-- The selections at the level of selections. -/
def allSameLevel : List Selection → List Selection
  | [] => []
  | s :: rest => sameLevel s ++ allSameLevel rest

end

mutual

/-- The selection and those in it, as far as no condition can leave them out. -/
def steady : Selection → List Selection
  | .field label name args ds none => if canLeaveOut ds then [] else [.field label name args ds none]
  | .field label name args ds (some sub) =>
    if canLeaveOut ds then [] else .field label name args ds (some sub) :: allSteady sub
  | .spread fragment ds => if canLeaveOut ds then [] else [.spread fragment ds]
  | .inline condition ds sub => if canLeaveOut ds then [] else .inline condition ds sub :: allSteady sub

/-- The selections and those in them that no condition can leave out. -/
def allSteady : List Selection → List Selection
  | [] => []
  | s :: rest => steady s ++ allSteady rest

end

namespace Subject

/-- What `part` takes of selections and of the fragments that it leads to. -/
def gathered (x : Subject) (part : List Selection → List Selection) (selections : List Selection) : List Selection :=
  let spreads (sels : List Selection) : List String := (namesSpread (part sels)).eraseDups
  let next (name : String) : List String := (x.fragments.get? name).elim [] fun f => spreads f.selections
  let reached := Schema.reachable next (x.document.length + 1) (spreads selections)
  part selections ++ reached.flatMap fun name => (x.fragments.get? name).elim [] fun f => part f.selections

/-- No root field of a mutation or subscription is delivered later. -/
def rootsAreAtOnce (x : Subject) (o : OperationDefinition) : Bool :=
  o.kind == .query || (x.gathered allSameLevel o.selections).all fun s => !s.directives.any isDelivery

/-- A selection that is streamed stands in a field that is a list, or is one. -/
def streamsList (p : Placed) : Bool :=
  match p.parent, p.field with
  | some _, some f =>
    match f.type with
    | .list .. => true
    | .named .. => !p.selection.directives.any (·.name == "stream")
  | _, _ => true

/-- Every part of a subscription that is delivered later can be delivered at once. -/
def canBeAtOnce (x : Subject) (o : OperationDefinition) : Bool :=
  o.kind != .subscription || (x.gathered allSteady o.selections).all fun s =>
    s.directives.all fun d => !isDelivery d || conditionCanBe false d

/-- The labels of parts that are delivered later. -/
def labels (x : Subject) : List Literal :=
  x.sites.flatMap fun site => (site.directives.filter isDelivery).filterMap fun d => argument? d "label"

/-- Labels are strings that differ, or null. -/
def labelsUnique (x : Subject) : Bool :=
  let given := x.labels.filter fun
    | .null => false
    | _ => true
  let texts := given.filterMap fun
    | .string value _ => some value
    | _ => none
  texts.length == given.length && !hasRepeat texts

end Subject

end TypedOperations.Validation
