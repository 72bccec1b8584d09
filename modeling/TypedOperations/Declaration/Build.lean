import TypedOperations.Declaration.Basic
import TypedOperations.Declaration.ValueExpression
import TypedOperations.Selection.Depth
import TypedOperations.Selection.Identity
import TypedOperations.Selection.Inline
import TypedOperations.Selection.Records

/-!
# Declaring classes

The declarations of a context: enums and input objects in order of first use, then operations, then fragments. Every
selection set becomes a class with a class nested in it for every type condition and every composite field.
-/

namespace TypedOperations

/-- The text of a remark; a value that is not a text says nothing if it counts as false, and cannot be written if not. -/
def remarkText : Option Remark → Except Fault (Option String)
  | none => .ok none
  | some (.text s) => .ok (some s)
  | some (.other j) => if j.isTrue then .error .unwritableRemark else .ok none

/-- The docstring of a remark, which must not be blank. -/
def documentationOf (remark : Option Remark) : Except Fault (Option Docstring) := do
  match Docstring.ofDescription (← remarkText remark) with
  | .ok d => return d
  | .error _ => throw .blankDescription

/-- The text, if it is not empty. -/
def nonEmpty (s : String) : Option String :=
  if s == "" then none else some s

/-! ## Enums and input objects -/

/-- The member of an enum value. -/
def enumMember (v : Schema.EnumValue) : Except Fault EnumMember := do
  return ⟨← remarkText v.description, Naming.enumMember v.name, v.name⟩

/-- The class of an enum type. -/
def enumClass (name : String) (description : Option Remark) (values : Except Schema.ValuesFault (List Schema.EnumValue)) :
    Except Fault EnumClass := do
  let documentation ← documentationOf description
  let values ← values.mapError .badValues
  return ⟨name, documentation, ← values.mapM enumMember⟩

/-- The attribute of an input field. -/
def inputAccessor (p : Property) : Except Fault InputAccessor := do
  return ⟨p, ← documentationOf p.description⟩

/-- The class of an input object type. -/
def Context.inputClass (c : Context) (name : String) (description : Option Remark) (fields : List Schema.InputValue) :
    Except Fault InputClass := do
  let properties ← fields.mapM fun f => c.options.inputProperty f.name (c.schema.resolve f.type) f.description
  let documentation ← documentationOf description
  return ⟨name, documentation, ← properties.mapM inputAccessor⟩

/-- The class of a type that needs one. -/
def Context.typeClass (c : Context) (t : Schema.TypeDef) : Except Fault (Option Declaration) := do
  match t.body with
  | .enum values => return some (.enum (← enumClass t.name t.description values))
  | .inputObject fields _ => return some (.input (← c.inputClass t.name t.description fields))
  | _ => return none

/-! ## Selection descriptors -/

/-- The class of the record under a key, as the class it is nested in refers to it. -/
def recordReference (f : Field) (classes : Entries String) : Except Fault String :=
  if f.type.base.kind.isComposite then
    match classes.get? f.responseKey with
    | some name => .ok ("cls." ++ name)
    | none => .error (.noNestedClass f.responseKey)
  else .ok "None"

/-- The descriptor of a field. -/
def fieldDescriptor (o : Options) (classes : Entries String) (f : Field) : Except Fault Descriptor := do
  let record ← recordReference f classes
  let arguments ← if f.arguments.isEmpty then pure none else some <$> argumentsExpression f.arguments
  return .field f.name (f.label.bind nonEmpty) arguments (← o.outputExpression record f.type)

mutual

/-- The descriptor of a selection; `classes` names the classes of composite fields. -/
def Selection.descriptor (o : Options) (classes : Entries String) : Selection → Except Fault Descriptor
  | .field f => fieldDescriptor o classes f
  | .typeCondition t _ => .ok (.condition (Naming.conditionClass t.name))
  | .spread fragment => .ok (.fragment (o.qualify (Naming.fragmentClass fragment)))
  | .guarded flag inverted ⟨_, sels⟩ => do return .guarded flag inverted (← descriptorsOf o classes sels)

/-- The descriptors of selections. -/
def descriptorsOf (o : Options) (classes : Entries String) : List Selection → Except Fault (List Descriptor)
  | [] => .ok []
  | x :: rest => do
    let first ← x.descriptor o classes
    return first :: (← descriptorsOf o classes rest)

end

/-! ## Records -/

/-- The properties of the fields that factories and attributes are for, which are all but `__typename`. -/
def ownFields (fields : List Field) : List Field :=
  fields.filter (·.responseKey != "__typename")

/-- The properties for the fragments spread directly in a selection set. One that does not apply to every possible type
is conditional. -/
def Context.fragmentProperties (c : Context) (set : SelectionSet) (found : Entries Property) :
    List Selection → Except Fault (Entries Property)
  | [] => .ok found
  | .spread name :: rest =>
    if found.has name then c.fragmentProperties set found rest
    else
      match c.fragment name with
      | .ok f =>
        let conditional := set.possibleTypes.any fun t => !f.possibleTypes.contains t
        c.fragmentProperties set (found.put name (c.options.fragmentProperty name conditional)) rest
      | .error e => .error e
  | _ :: rest => c.fragmentProperties set found rest

/-- What the properties of a record class depend on besides their fields. -/
structure RecordScope where
  options : Options
  qualifiedName : String
  /-- The nested classes of composite fields by response key. -/
  classes : Entries String
  /-- The attributes of type conditions. -/
  taken : List String

namespace RecordScope

/-- The property of a field that every possible type has. -/
def property (s : RecordScope) (f : Field) : Except Fault Property :=
  s.options.fieldProperty f s.qualifiedName ((s.classes.get? f.responseKey).getD "") s.taken

/-- The property of a field of one possible type: a field that not every type has belongs to the class of the type
condition on its own type. -/
def propertyFor (s : RecordScope) (common : List String) (type : String) (f : Field) : Except Fault Property :=
  if common.contains f.responseKey then s.property f
  else s.options.fieldProperty f (s.qualifiedName ++ "." ++ Naming.conditionClass type) "" []

/-- The factories of a record, one for every possible type. -/
def factoriesOf (s : RecordScope) (common : List String) (fields : List Field) : List String → Except Fault (List Factory)
  | [] => .ok []
  | t :: rest => do
    let properties ← (ownFields fields).mapM (s.propertyFor common t)
    return ⟨"make_" ++ Naming.snakeCase t, t, properties⟩ :: (← s.factoriesOf common fields rest)

/-- The factories of a record case: a single `make` for a single possible type, one for each otherwise. -/
def factories (s : RecordScope) (cases : RecordCase) : Except Fault (List Factory) := do
  match cases.isMonomorphic, cases.records with
  | true, [r] => return [⟨"make", r.possibleTypes.headD "", ← (ownFields r.fields).mapM s.property⟩]
  | _, records =>
    let common := cases.common.fields.map (·.responseKey)
    return (← records.mapM fun r => s.factoriesOf common r.fields r.possibleTypes).flatten

end RecordScope

/-- How the value of a property is read. -/
def Options.reading (o : Options) (p : Property) : Except Fault Reading :=
  match p.type with
  | none => .ok .direct
  | some t =>
    if t.base.kind.isComposite then do
      return .mapped (← o.typeExpression "Snapshot" t) (.construct (p.className.getD ""))
    else if t.base.kind == .enum then do
      return .mapped (← o.typeExpression "str" t) (.construct (o.qualify t.base.name))
    else .ok .direct

/-- The attribute of a field. -/
def Options.fieldAccessor (o : Options) (p : Property) : Except Fault FieldAccessor := do
  let documentation ← documentationOf p.description
  return ⟨p, documentation, ← o.reading p⟩

/-- The class that a record class extends and the text it is for. -/
structure RecordRole where
  base : String := "GraphQLSelectionSet"
  source : Option String := none

/-- The class of a selection set under the classes in `scope`, with its nested classes. `fuel` bounds how deep classes
nest; it runs out only if fragments spread themselves. -/
def Context.recordClass (c : Context) : Nat → List String → RecordRole → String → SelectionSet → Except Fault RecordClass
  | 0, _, _, name, _ => .error (.cyclicFragments name)
  | fuel + 1, scope, role, name, set => do
    let path := scope ++ [name]
    let qualifiedName := c.options.qualify (String.intercalate "." path)
    let cases ← RecordCase.ofSet (← c.mergeSpreads set).inlineRedundant
    let conditions := typeConditions set.selections
    let fragments := (← c.fragmentProperties set [] set.selections).values
    let reserved := conditions.names.map Naming.conditionClass ++ (if fragments.isEmpty then [] else ["Fragments"])
    let composite := cases.common.fields.filter (·.type.base.kind.isComposite)
    let classes := Naming.distinctClasses (composite.map (·.responseKey)) reserved
    let narrowings := conditions.values.map fun t => Options.conditionProperty t.type t.set qualifiedName
    let own : RecordScope := ⟨c.options, qualifiedName, classes, narrowings.map (·.attributeName)⟩
    let properties ← (ownFields cases.common.fields).mapM own.property
    let selections ← descriptorsOf c.options classes set.selections
    let factories ← own.factories cases
    let fields ← properties.mapM c.options.fieldAccessor
    let conditionClasses ← conditions.mapM fun (type, t) =>
      c.recordClass fuel path {} (Naming.conditionClass type) t.set
    let fieldClasses ← (properties.filter (·.isComposite)).mapM fun p =>
      match p.selectionSet with
      | some sub => c.recordClass fuel path {} ((classes.get? p.name).getD "") sub
      | none => .error (.noSelectionSet p.name qualifiedName)
    return {
      name, qualifiedName, base := role.base, source := role.source, possibleTypes := set.possibleTypes, selections,
      factories, fields, conditions := narrowings, fragments, conditionClasses, fieldClasses }

/-! ## Operations and fragments -/

/-- The class name of an operation and the class it extends. -/
def Operation.className (o : Operation) : Except Fault (String × String) :=
  match o.sort with
  | .query => .ok (Naming.operationClass o.name ++ "Query", "GraphQLQuery")
  | .mutation => .ok (Naming.operationClass o.name ++ "Mutation", "GraphQLMutation")
  | .other word => .error (.unsupportedOperation word)

/-- The class of an operation. -/
def Context.operationClass (c : Context) (o : Operation) : Except Fault OperationClass := do
  let (name, base) ← o.className
  let reached ← c.fragmentsReached o.set
  let identifier ← if c.options.operationIds then (fun r => some r.2) <$> c.operationId o reached else pure none
  let parameters ← o.parameters.mapM c.options.variableProperty
  let data ← c.recordClass c.depthBound [name] {} "Data" o.set
  return {
    name, base, operationName := o.name, source := o.source, identifier
    fragments := reached.map fun f => c.options.qualify (Naming.fragmentClass f)
    parameters, data }

/-- The class of a fragment. -/
def Context.fragmentClass (c : Context) (f : Fragment) : Except Fault RecordClass :=
  c.recordClass c.depthBound [] ⟨"GraphQLFragment", nonEmpty f.source⟩ (Naming.fragmentClass f.name) f.set

/-- All declarations of a context. -/
def Context.declarations (c : Context) : Except Fault (List Declaration) := do
  let types ← c.typesUsed.filterMapM c.typeClass
  let operations ← c.operations.values.mapM c.operationClass
  let fragments ← c.fragments.values.mapM c.fragmentClass
  return types ++ operations.map .operation ++ fragments.map .fragment

end TypedOperations
