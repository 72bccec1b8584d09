import TypedOperations.Language.Printer
import TypedOperations.Language.Typename
import TypedOperations.Number.Decimal
import TypedOperations.Schema.Introspection
import TypedOperations.Selection.Basic

/-!
# Resolving documents

Documents become selections by looking every name up in the schema. A literal condition keeps or drops a selection, a
variable condition guards it; an inline fragment without a type belongs to the set around it. The types that the
operations and fragments mention are listed in the order of first use.
-/

namespace TypedOperations

/-- Why a document cannot be resolved. -/
inductive ResolveError where
  | unnamedOperation
  | noRootType (kind : Language.OperationKind)
  | unknownType (text : String)
  | unknownField (field type : String)
  | noSubfields (field type : String)
  | conditionWithoutArguments
  | conditionWithoutIf
  | tooManyDigits (digits : Nat)
deriving DecidableEq, Repr

/-- The wording of an error. -/
def ResolveError.message : ResolveError → String
  | .unnamedOperation => "Operations must be named"
  | .noRootType kind => "Schema is not configured for " ++ kind.word ++ " operations"
  | .unknownType text => "Unknown type \"" ++ text ++ "\""
  | .unknownField field type => "Cannot query field \"" ++ field ++ "\" on type \"" ++ type ++ "\""
  | .noSubfields field type => "Field \"" ++ field ++ "\" of type \"" ++ type ++ "\" must have a selection of subfields"
  | .conditionWithoutArguments => "A condition has no arguments"
  | .conditionWithoutIf => "A condition has no argument `if`"
  | .tooManyDigits digits =>
    "Exceeds the limit (4300 digits) for integer string conversion: value has " ++ toString digits ++
      " digits; use sys.set_int_max_str_digits() to increase the limit"

namespace Resolve

open TypedOperations.Language (Literal Directive)

mutual

/-- The value of a literal; an enum value is its name. -/
def value : Literal → Except ResolveError Value
  | .var name => .ok (.var name)
  | .int digits =>
    let n := Decimal.digitCount digits
    if Decimal.maxDigits < n then .error (.tooManyDigits n) else .ok (.int (Decimal.intOfText digits))
  | .float digits => .ok (.float ((Decimal.binary64OfText? digits).getD .nan))
  | .string s _ => .ok (.string s)
  | .bool b => .ok (.bool b)
  | .null => .ok .null
  | .enum name => .ok (.string name)
  | .list items => do return .list (← values items)
  | .object fields => do return .keyed (Entries.ofPairs (← fieldValues fields))

/-- The values of literals. -/
def values : List Literal → Except ResolveError (List Value)
  | [] => .ok []
  | v :: rest => do
    let first ← value v
    return first :: (← values rest)

/-- The values of the fields of an object. -/
def fieldValues : List (String × Literal) → Except ResolveError (List (String × Value))
  | [] => .ok []
  | (name, v) :: rest => do
    let first ← value v
    return (name, first) :: (← fieldValues rest)

end

/-- The values of arguments. -/
def arguments : List Language.Argument → Except ResolveError (List Argument)
  | [] => .ok []
  | a :: rest => do
    let first ← value a.value
    return ⟨a.name, first⟩ :: (← arguments rest)

/-- A guard: a variable, and whether it must be false. -/
structure Guard where
  flag : String
  inverted : Bool
deriving DecidableEq, Repr

/-- The literal that decides a condition. -/
def conditionValue (d : Directive) : Except ResolveError Literal :=
  if d.arguments.isEmpty then .error .conditionWithoutArguments
  else
    match d.arguments.find? (·.name == "if") with
    | some a => .ok a.value
    | none => .error .conditionWithoutIf

/-- The guards that directives put on a selection; nothing if a literal condition drops it. -/
def guards : List Directive → Except ResolveError (Option (List Guard))
  | [] => .ok (some [])
  | d :: rest =>
    if d.name == "include" || d.name == "skip" then do
      let inverted := d.name == "skip"
      match ← conditionValue d with
      | .var name => return (← guards rest).map (⟨name, inverted⟩ :: ·)
      | .bool b => if b == inverted then return none else guards rest
      | _ => guards rest
    else guards rest

/-- The selections inside guards, the first outermost. -/
def guardAll (possible : List String) (guards : List Guard) (selections : List Selection) : List Selection :=
  guards.foldr (fun g inner => [.guarded g.flag g.inverted ⟨possible, inner⟩]) selections

/-- A composite type of the schema. -/
def compositeType (s : Schema) (name : String) : Except ResolveError Schema.TypeDef :=
  match s.type? name with
  | some t => if t.kind.isComposite then .ok t else .error (.unknownType name)
  | none => .error (.unknownType name)

/-- The field a name selects on a type. -/
def fieldOf (s : Schema) (parent : Schema.TypeDef) (name : String) : Except ResolveError Schema.FieldDef :=
  match s.field? parent name with
  | some f => .ok f
  | none => .error (.unknownField name parent.name)

/-- A selected field from its parts. -/
def makeField (s : Schema) (f : Schema.FieldDef) (label : Option String) (args : List Argument)
    (set : Option SelectionSet) : Selection :=
  .field
    { responseKey := label.getD f.name
      name := f.name
      type := s.resolve f.type
      label
      arguments := args
      description := f.description
      selectionSet := set }

mutual

/-- The selections that one selection of a document becomes, on a parent type within a set of possible types. -/
def selection (s : Schema) (parent : Schema.TypeDef) (possible : List String) :
    Language.Selection → Except ResolveError (List Selection)
  | .field label name args ds sub => do
    match ← guards ds with
    | none => return []
    | some gs =>
      let f ← fieldOf s parent name
      let base := f.type.base
      match s.type? base with
      | some t =>
        if t.kind.isComposite then
          match sub with
          | none => throw (.noSubfields name base)
          | some sub =>
            let possible' := s.possibleTypes base
            let sels ← selections s t possible' sub
            let args ← arguments args
            return guardAll possible gs [makeField s f label args (some ⟨possible', sels⟩)]
        else
          let args ← arguments args
          return guardAll possible gs [makeField s f label args none]
      | none =>
        let args ← arguments args
        return guardAll possible gs [makeField s f label args none]
  | .spread fragment ds => do
    match ← guards ds with
    | none => return []
    | some gs => return guardAll possible gs [.spread fragment]
  | .inline condition ds sub => do
    match ← guards ds with
    | none => return []
    | some gs =>
      match condition with
      | none => return guardAll possible gs (← selections s parent possible sub)
      | some name =>
        let t ← compositeType s name
        let narrowed := possible.filter (s.possibleTypes name).contains
        return guardAll possible gs [.typeCondition t.ref ⟨narrowed, ← selections s t narrowed sub⟩]

/-- The selections that selections of a document become. -/
def selections (s : Schema) (parent : Schema.TypeDef) (possible : List String) :
    List Language.Selection → Except ResolveError (List Selection)
  | [] => .ok []
  | x :: rest => do
    let first ← selection s parent possible x
    return first ++ (← selections s parent possible rest)

end

/-- The selection set of an operation or fragment on a type. -/
def rootSet (s : Schema) (t : Schema.TypeDef) (sub : List Language.Selection) : Except ResolveError SelectionSet := do
  let possible := s.possibleTypes t.name
  return ⟨possible, ← selections s t possible sub⟩

/-- The declared variables of an operation. -/
def parameters (s : Schema) : List Language.VariableDefinition → Except ResolveError (List Variable)
  | [] => .ok []
  | v :: rest => do
    match s.resolve? v.type with
    | none => throw (.unknownType (Language.Printer.typeRef v.type))
    | some t => return ⟨v.name, t⟩ :: (← parameters s rest)

/-- A resolved operation. -/
def operation (s : Schema) (o : Language.OperationDefinition) : Except ResolveError Operation := do
  match o.name with
  | none => throw .unnamedOperation
  | some name =>
    match (s.root o.kind).bind s.type? with
    | none => throw (.noRootType o.kind)
    | some root =>
      let vs ← parameters s o.parameters
      let set ← rootSet s root o.selections
      return ⟨name, .ofWord o.kind.word, vs, Language.Printer.operation o, set, some root.name⟩

/-- A resolved fragment. -/
def fragment (s : Schema) (f : Language.FragmentDefinition) : Except ResolveError Fragment := do
  let t ← compositeType s f.condition
  let set ← rootSet s t f.selections
  return ⟨f.name, t.ref, s.possibleTypes t.name, set, Language.Printer.fragment f⟩

/-! ## Types used -/

mutual

/-- The named types of the fields in a selection, outermost first. -/
def fieldTypes : Selection → List String
  | .field ⟨_, _, t, _, _, _, none, _⟩ => [t.base.name]
  | .field ⟨_, _, t, _, _, _, some ⟨_, sels⟩, _⟩ => t.base.name :: allFieldTypes sels
  | .typeCondition _ ⟨_, sels⟩ => allFieldTypes sels
  | .spread _ => []
  | .guarded _ _ ⟨_, sels⟩ => allFieldTypes sels

/-- The named types of the fields in selections, in order. -/
def allFieldTypes : List Selection → List String
  | [] => []
  | x :: rest => fieldTypes x ++ allFieldTypes rest

end

/-- The types used with one more name: an enum, a custom scalar, or an input object followed by the types of its fields.
`fuel` bounds how deep input objects are followed; each level adds a type. -/
def addUsed (s : Schema) : Nat → List Schema.TypeDef → String → List Schema.TypeDef
  | 0, used, _ => used
  | fuel + 1, used, name =>
    if used.any (·.name == name) then used
    else
      match s.type? name with
      | none => used
      | some t =>
        match t.body with
        | .enum _ => used ++ [t]
        | .scalar => if Schema.builtInScalars.contains name then used else used ++ [t]
        | .inputObject fields _ => (fields.map (·.type.base)).foldl (addUsed s fuel) (used ++ [t])
        | _ => used

/-- The types used with more names. -/
def addAllUsed (s : Schema) (used : List Schema.TypeDef) (names : List String) : List Schema.TypeDef :=
  names.foldl (addUsed s (s.types.length + 1)) used

/-- The context with one more definition; definitions of the type system add nothing. -/
def addDefinition (s : Schema) (c : Context) : Language.Definition → Except ResolveError Context
  | .operation o => do
    let r ← operation s o
    let used := addAllUsed s c.typesUsed (r.parameters.map (·.type.base.name) ++ allFieldTypes r.set.selections)
    return { c with operations := c.operations.put r.name r, typesUsed := used }
  | .fragment f => do
    let r ← fragment s f
    let used := addAllUsed s c.typesUsed (allFieldTypes r.set.selections)
    return { c with fragments := c.fragments.put r.name r, typesUsed := used }
  | _ => .ok c

end Resolve

/-- The context of a document whose selections stay as they are. -/
def Context.ofDocument (s : Schema) (options : Options) (d : Language.Document) : Except ResolveError Context :=
  d.foldlM (Resolve.addDefinition s) { schema := s, operations := [], fragments := [], typesUsed := [], options }

/-- The context of a document, with `__typename` inserted if the options ask for it. -/
def Context.resolve (s : Schema) (options : Options) (d : Language.Document) : Except ResolveError Context :=
  Context.ofDocument s options (if options.addTypename then Language.addTypename d else d)

end TypedOperations
