import TypedOperations.Validation.Delivery
import TypedOperations.Validation.Input
import TypedOperations.Validation.Overlap
import TypedOperations.Validation.Subscription

/-!
# Rules for documents

What an executable document must keep to so that it can be resolved against a schema. Fragments may be left unused, since
they may be spread by other documents.
-/

namespace TypedOperations.Validation

open TypedOperations.Language

/-- The rules. -/
inductive Rule where
  | executableDefinitions
  | knownOperationTypes
  | uniqueOperationNames
  | loneAnonymousOperation
  | singleFieldSubscriptions
  | knownTypeNames
  | fragmentsOnCompositeTypes
  | variablesAreInputTypes
  | scalarLeafs
  | fieldsOnCorrectType
  | uniqueFragmentNames
  | knownFragmentNames
  | possibleFragmentSpreads
  | noFragmentCycles
  | maxFragmentDepth
  | maxVariableUses
  | maxSubscriptionFields
  | uniqueVariableNames
  | noUndefinedVariables
  | noUnusedVariables
  | knownDirectives
  | uniqueDirectivesPerLocation
  | noDeliveryAtRoots
  | noDeliveryInSubscriptions
  | uniqueDeliveryLabels
  | streamsAreLists
  | knownArgumentNames
  | uniqueArgumentNames
  | valuesOfCorrectType
  | providedRequiredArguments
  | variablesInAllowedPosition
  | uniqueInputFieldNames
  | maxIntrospectionDepth
  | overlappingFieldsCanBeMerged
deriving DecidableEq, Repr

namespace Subject

/-- The variables that an operation uses, by itself and through fragments. -/
def usagesOf (x : Subject) (o : OperationDefinition) : List Usage :=
  let fragments := (x.fragmentsReached o.selections).filterMap x.fragments.get?
  (Definition.operation o :: fragments.map .fragment).flatMap fun d =>
    (fieldInputs x.schema d ++ directiveInputs x.schema d).flatMap (·.usages x.schema)

/-- How many uses of variables the operations of the document have together. -/
def variableUseCount (x : Subject) : Nat :=
  x.operations.foldl (fun n o => n + (x.usagesOf o).length) 0

/-- The most uses of variables that the operations of a document may have together, and the most root fields that its
subscriptions may have, each with what it takes from fragments. -/
def maxGathered : Nat := 50000

/-! ## Types -/

/-- The name is of a type that has no fields. -/
def lacksFields (x : Subject) (name : String) : Bool :=
  (x.schema.type? name).elim false fun t => !t.kind.isComposite

/-- The type conditions of the document. -/
def typeConditions (x : Subject) : List String :=
  x.fragmentList.map FragmentDefinition.condition ++ x.selections.filterMap fun
    | .inline condition _ _ => condition
    | _ => none

/-- A field of a leaf type has no sub-selections, a field of any other type has a set of them, which may be empty. -/
def leafsFit (x : Subject) (p : Placed) : Bool :=
  match p.selection with
  | .field _ _ _ _ sub =>
    match p.field with
    | some f => if (x.schema.kindOf f.type.base).isLeaf then sub.isNone else sub.isSome
    | none => true
  | _ => true

/-- The field exists on the type it is selected on. -/
def fieldExists (p : Placed) : Bool :=
  match p.selection with
  | .field .. => p.parent.isNone || p.field.isSome
  | _ => true

/-! ## Fragments -/

/-- Some object can have both types. -/
def overlap (s : Schema) (a b : Schema.TypeDef) : Bool :=
  a.name == b.name || (s.possibleTypes a.name).any (s.possibleTypes b.name).contains

/-- A fragment can apply where it stands. -/
def canApply (x : Subject) (p : Placed) : Bool :=
  let condition : Option String := match p.selection with
    | .inline condition _ _ => condition
    | .spread name _ => (x.fragments.get? name).map FragmentDefinition.condition
    | .field .. => none
  match p.parent, condition.bind (composite? x.schema) with
  | some a, some b => overlap x.schema a b
  | _, _ => true

/-- A fragment reaches itself. -/
def isCyclic (x : Subject) (f : FragmentDefinition) : Bool :=
  (x.fragmentsReached f.selections).contains f.name

/-- The most fragments in a row of which each spreads the next. -/
def maxFragmentChain : Nat := 200

/-- From one of the fragments, at least `n` more can be reached in a row. -/
def chainsFurther (x : Subject) : Nat → List String → Bool
  | 0, names => !names.isEmpty
  | n + 1, names => !names.isEmpty && x.chainsFurther n (names.flatMap x.spreadsOf).eraseDups

/-! ## Directives and arguments -/

/-- The directives at a place are declared and may stand there. -/
def directivesKnown (x : Subject) (site : Site) : Bool :=
  site.directives.all fun d => (x.schema.lastDirective? d.name).any fun k => k.locations.contains site.location

/-- No directive is repeated at a place unless it may be. -/
def directivesUnique (x : Subject) (site : Site) : Bool :=
  let names := (site.directives.filter fun d => (x.schema.lastDirective? d.name).any fun k => !k.repeatable).map (·.name)
  !hasRepeat names

/-- An argument list: what is declared for it, and what is given. -/
structure ArgumentList where
  declared : List Schema.InputValue
  given : List Argument

/-- The argument lists of fields and directives that are known. -/
def argumentLists (x : Subject) : List ArgumentList :=
  (x.placed.filterMap fun p =>
    match p.selection with
    | .field _ _ args _ _ => p.field.map fun f => ⟨f.arguments, args⟩
    | _ => none) ++
  x.sites.flatMap fun site => site.directives.filterMap fun d =>
    (x.schema.lastDirective? d.name).map fun k => ⟨k.arguments, d.arguments⟩

/-! ## Introspection -/

/-- The lists of introspection that can lead around in circles. -/
def circularFields : List String := ["fields", "interfaces", "possibleTypes", "inputFields"]

mutual

/-- Three circular lists are nested in a selection, counting those around it; `follow` looks into fragments. -/
def nestsLists (follow : Nat → String → Bool) (depth : Nat) : Selection → Bool
  | .field _ name _ _ sub =>
    let depth := if circularFields.contains name then depth + 1 else depth
    (circularFields.contains name && 3 ≤ depth) ||
      match sub with
      | none => false
      | some sels => anyNestsLists follow depth sels
  | .spread fragment _ => follow depth fragment
  | .inline _ _ sub => anyNestsLists follow depth sub

/-- Three circular lists are nested in one of the selections. -/
def anyNestsLists (follow : Nat → String → Bool) (depth : Nat) : List Selection → Bool
  | [] => false
  | x :: rest => nestsLists follow depth x || anyNestsLists follow depth rest

end

/-- Three circular lists are nested in a fragment, counting those around it. -/
def fragmentNestsLists (x : Subject) : Nat → Nat → String → Bool
  | 0, _, _ => false
  | fuel + 1, depth, name =>
    (x.fragments.get? name).elim false fun f => anyNestsLists (x.fragmentNestsLists fuel) depth f.selections

/-- A field that leads to introspection nests too many circular lists. -/
def introspectsTooDeep (x : Subject) (sel : Selection) : Bool :=
  match sel with
  | .field _ name _ _ _ =>
    (name == "__schema" || name == "__type") && nestsLists (x.fragmentNestsLists (x.document.length + 1)) 0 sel
  | _ => false

end Subject

/-- The document keeps to a rule. -/
def Rule.holds (x : Subject) : Rule → Bool
  | .executableDefinitions => x.document.all fun
    | .operation _ => true
    | .fragment _ => true
    | _ => false
  | .knownOperationTypes => x.operations.all fun o => (x.schema.root o.kind).isSome
  | .uniqueOperationNames => !hasRepeat (x.operations.filterMap (·.name))
  | .loneAnonymousOperation => x.operations.length ≤ 1 || x.operations.all (·.name.isSome)
  | .singleFieldSubscriptions => x.operations.all x.selectsOneField
  | .knownTypeNames => (x.document.flatMap Definition.mentionedTypes).all fun n => (x.schema.type? n).isSome
  | .fragmentsOnCompositeTypes => !x.typeConditions.any x.lacksFields
  | .variablesAreInputTypes => x.operations.all fun o => o.parameters.all fun v =>
    (x.schema.type? v.type.base).elim true (·.kind.isInput)
  | .scalarLeafs => x.placed.all x.leafsFit
  | .fieldsOnCorrectType => x.placed.all Subject.fieldExists
  | .uniqueFragmentNames => !hasRepeat (x.fragmentList.map (·.name))
  | .knownFragmentNames => (x.document.flatMap fun d => spreadsIn (selectionsOf d)).all x.fragments.has
  | .possibleFragmentSpreads => x.placed.all x.canApply
  | .noFragmentCycles => !x.fragmentList.any x.isCyclic
  | .maxFragmentDepth => !x.chainsFurther Subject.maxFragmentChain x.fragments.names
  | .maxVariableUses => x.variableUseCount ≤ Subject.maxGathered
  | .maxSubscriptionFields => x.rootFieldCount ≤ Subject.maxGathered
  | .uniqueVariableNames => x.operations.all fun o => !hasRepeat (o.parameters.map (·.name))
  | .noUndefinedVariables => x.operations.all fun o => (x.usagesOf o).all fun u => o.parameters.any (·.name == u.name)
  | .noUnusedVariables => x.operations.all fun o => o.parameters.all fun v => (x.usagesOf o).any (·.name == v.name)
  | .knownDirectives => x.sites.all x.directivesKnown
  | .uniqueDirectivesPerLocation => x.sites.all x.directivesUnique
  | .noDeliveryAtRoots => x.operations.all x.rootsAreAtOnce
  | .noDeliveryInSubscriptions => x.operations.all x.canBeAtOnce
  | .uniqueDeliveryLabels => x.labelsUnique
  | .streamsAreLists => x.placed.all Subject.streamsList
  | .knownArgumentNames => x.argumentLists.all fun l => l.given.all fun a => l.declared.any (·.name == a.name)
  | .uniqueArgumentNames => (x.document.flatMap Definition.argumentLists).all fun args => !hasRepeat (args.map (·.name))
  | .valuesOfCorrectType => (x.document.flatMap (inputs x.schema)).all fun i => x.schema.accepts i.type i.value
  | .providedRequiredArguments => x.argumentLists.all fun l =>
    l.declared.all fun v => !v.isNeeded || l.given.any (·.name == v.name)
  | .variablesInAllowedPosition => x.operations.all fun o => (x.usagesOf o).all fun u =>
    (o.parameters.find? (·.name == u.name)).elim true (isAllowed x.schema · u)
  | .uniqueInputFieldNames => !(x.document.flatMap Definition.literals).any Literal.repeatsField
  | .maxIntrospectionDepth => !x.selections.any x.introspectsTooDeep
  | .overlappingFieldsCanBeMerged => !(Sets.ofDocument x.schema x.document).conflicts

/-- The rules. The last one follows sub-selections through fragments, which the rule against cycles before it makes sure
to end. -/
def Rule.all : List Rule :=
  [.executableDefinitions, .knownOperationTypes, .uniqueOperationNames, .loneAnonymousOperation, .singleFieldSubscriptions,
   .knownTypeNames, .fragmentsOnCompositeTypes, .variablesAreInputTypes, .scalarLeafs, .fieldsOnCorrectType,
   .uniqueFragmentNames, .knownFragmentNames, .possibleFragmentSpreads, .noFragmentCycles, .maxFragmentDepth,
   .maxVariableUses, .maxSubscriptionFields, .uniqueVariableNames, .noUndefinedVariables, .noUnusedVariables,
   .knownDirectives, .uniqueDirectivesPerLocation, .noDeliveryAtRoots, .noDeliveryInSubscriptions, .uniqueDeliveryLabels,
   .streamsAreLists, .knownArgumentNames, .uniqueArgumentNames, .valuesOfCorrectType, .providedRequiredArguments,
   .variablesInAllowedPosition, .uniqueInputFieldNames, .maxIntrospectionDepth, .overlappingFieldsCanBeMerged]

/-- The first rule that a document breaks. -/
def brokenRule? (x : Subject) : Option Rule :=
  Rule.all.find? fun r => !r.holds x

/-! ## The check -/

/-- Why the check of a document ends early. -/
inductive Interruption where
  /-- A deferral at the root of a subscription cannot be read. -/
  | unfitDeferral (cause : Schema.DirectiveFault)
  /-- What is to be streamed stands on a union, which has no fields to name. -/
  | streamOnUnion
deriving DecidableEq, Repr

/-- A selection on a union is streamed though it does not stand in a list. -/
def streamsUnion (p : Placed) : Bool :=
  !Subject.streamsList p && p.parent.any (·.kind == .union)

/-- What ends the check in a definition. -/
def interruptionIn? (x : Subject) (d : Definition) : Option Interruption :=
  let deferral : Option Interruption := match d with
    | .operation o =>
      match x.subscribed? o with
      | some (.error cause) => some (.unfitDeferral cause)
      | _ => none
    | _ => none
  deferral.or (if (placed x.schema d).any streamsUnion then some .streamOnUnion else none)

/-- Why a document cannot be resolved. -/
inductive Problem where
  | interrupted (cause : Interruption)
  | broken (rule : Rule)
deriving DecidableEq, Repr

/-- A document keeps to all rules, or why not. What ends the check early is found whatever rules are broken. -/
def check (s : Schema) (d : Document) : Except Problem Unit :=
  let x := Subject.of s d
  match d.findSome? (interruptionIn? x), brokenRule? x with
  | some cause, _ => .error (.interrupted cause)
  | none, some rule => .error (.broken rule)
  | none, none => .ok ()

end TypedOperations.Validation
