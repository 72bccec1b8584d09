import TypedOperations.Declaration.Basic

/-!
# Writing declarations

The text of every class of a module. Attributes come as a reading and a writing half; classes nested in a class follow
its own members.
-/

namespace TypedOperations

namespace Writer

/-! ## Enums and input objects -/

/-- The members of an enum, each after its comment. -/
def enumMembers (w : Writer) (ms : List EnumMember) : Writer :=
  ms.foldl (fun w m => (w.comment? m.comment).line (m.name ++ " = " ++ stringLiteral m.wire)) w

/-- The class of an enum. -/
def enumClass (w : Writer) (c : EnumClass) : Writer :=
  w.declaration c.name ["str", "Enum"] c.documentation fun w => w.separate.enumMembers c.members

/-- The expression that reads a key of a map: a key that may be missing reads as `None`. -/
def readExpression (map key : String) (optional : Bool) : String :=
  if optional then map ++ ".get(" ++ key ++ ")" else map ++ "[" ++ key ++ "]"

/-- The attribute of an input field. -/
def inputAccessor (w : Writer) (a : InputAccessor) : Writer :=
  let p := a.property
  let key := stringLiteral p.name
  let type := p.hint.text
  let w := w.getter p.attributeName type a.documentation fun w =>
    w.line ("return cast(" ++ type ++ ", " ++ readExpression "self.graphql_map" key p.optional ++ ")")
  w.setter p.attributeName type fun w => w.line ("self.graphql_map[" ++ key ++ "] = new_value")

/-- The class of an input object. -/
def inputClass (w : Writer) (c : InputClass) : Writer :=
  let properties := c.fields.map (·.property)
  w.declaration c.name ["GraphQLMapConvertible"] c.documentation fun w =>
    let w := w.method "__init__" (Property.parameters "self" properties) (some "None") [] fun w =>
      w.wrapped "self.graphql_map = \x7b" (properties.map fun p => stringLiteral p.name ++ ": " ++ p.attributeName) "\x7d"
    c.fields.foldl inputAccessor w

/-! ## Members of record classes -/

/-- A text in parentheses, one literal a line, as the value of an attribute. -/
def sourceAttribute (w : Writer) (name source : String) : Writer :=
  (((w.line (name ++ " = (")).indented fun w => w.sourceLines source).line ")")

/-- The text of the descriptor of a field. -/
def fieldDescriptor (name : String) (label arguments : Option String) (type : OutputExpression) : String :=
  let label := label.elim [] fun l => ["alias=" ++ stringLiteral l]
  let arguments := arguments.elim [] fun a => ["arguments=" ++ a]
  "GraphQLField(" ++ String.intercalate ", " (stringLiteral name :: label ++ arguments ++ ["type=" ++ type.text]) ++ ")"

/-- The start of the descriptor of guarded selections. -/
def guardOpening (flag : String) (inverted : Bool) : String :=
  "GraphQLBooleanCondition(variable_name=" ++ stringLiteral flag ++ ", inverted=" ++ (if inverted then "True" else "False") ++
    ", selections="

mutual

/-- A descriptor on a line of its own. -/
def descriptor (w : Writer) : Descriptor → Writer
  | .field name label arguments type => w.line (fieldDescriptor name label arguments type ++ ",")
  | .condition className => w.line ("GraphQLFragmentSpread(cls." ++ className ++ "),")
  | .fragment className => w.line ("GraphQLFragmentSpread(" ++ className ++ "),")
  | .guarded flag inverted body => ((w.line (guardOpening flag inverted)).descriptorList body).add "),"

/-- Descriptors, each on a line of its own. -/
def descriptors (w : Writer) : List Descriptor → Writer
  | [] => w
  | d :: rest => (w.descriptor d).descriptors rest

/-- A list of descriptors, which begins on the current line. -/
def descriptorList (w : Writer) : List Descriptor → Writer
  | [] => w.add "[]"
  | d :: rest => (((w.add "[").indent.descriptor d).descriptors rest).dedent.line "]"

end

/-- The value of a parameter in a snapshot: records are stored as their snapshots. -/
def storedValue (p : Property) (value : String) : String :=
  match p.type with
  | some t => if t.base.kind.isComposite then (ElementMap.ofType value 0 t).text .snapshot else value
  | none => value

/-- The entries of the snapshot that a factory makes. -/
def factoryEntries (f : Factory) : List String :=
  ("\"__typename\": " ++ stringLiteral f.typename) ::
    f.properties.map fun p => stringLiteral p.name ++ ": " ++ storedValue p p.attributeName

/-- A factory of a class. -/
def factory (qualifiedName : String) (w : Writer) (f : Factory) : Writer :=
  w.method f.name (Property.parameters "cls" f.properties) (some qualifiedName) ["classmethod"] fun w =>
    w.wrapped "return cls(\x7b" (factoryEntries f) "\x7d)"

/-- The expression that maps a stored value to what an attribute gives. -/
def mappedValue (p : Property) (transform : Transform) (value : String) : String :=
  match p.type with
  | some t => (ElementMap.ofType value 0 t).text transform
  | none => value

/-- The attribute of a field. -/
def fieldAccessor (w : Writer) (a : FieldAccessor) : Writer :=
  let p := a.property
  let key := stringLiteral p.name
  let type := p.hint.text
  let read := readExpression "self.snapshot" key p.optional
  let w := w.getter p.attributeName type a.documentation fun w =>
    match a.reading with
    | .direct => w.line ("return cast(" ++ type ++ ", " ++ read ++ ")")
    | .mapped storage transform =>
      (w.line ("value = cast(" ++ storage.text ++ ", " ++ read ++ ")")).line ("return " ++ mappedValue p transform "value")
  w.setter p.attributeName type fun w => w.line ("self.snapshot[" ++ key ++ "] = " ++ storedValue p "new_value")

/-- A return of `None`, under a condition. -/
def returnNoneIf (w : Writer) (condition : String) : Writer :=
  w.block ("if " ++ condition) fun w => w.line "return None"

/-- The writing half of an attribute that replaces the snapshot; `None` may be given where it is optional. -/
def replacingSetter (w : Writer) (name type : String) (optional : Bool) : Writer :=
  w.setter name type fun w =>
    let w := if optional then w.block "if new_value is None" fun w => w.line "return" else w
    w.line "self.replace_snapshot(new_value.snapshot)"

/-- The attribute that narrows a record to a type. -/
def conditionAccessor (w : Writer) (p : Property) : Writer :=
  let className := p.className.getD ""
  let w := w.getter p.attributeName p.hint.text none fun w =>
    (w.returnNoneIf ("self.typename not in " ++ className ++ ".possible_types")).line
      ("return " ++ className ++ "(self.snapshot)")
  w.replacingSetter p.attributeName p.hint.text true

/-- The attribute that gives a record as a fragment. -/
def fragmentAccessor (w : Writer) (p : Property) : Writer :=
  let className := p.className.getD ""
  let w := w.getter p.attributeName p.hint.text none fun w =>
    let w :=
      if p.conditional then
        w.returnNoneIf ("self.snapshot.get(\"__typename\") not in " ++ className ++ ".possible_types")
      else w
    w.line ("return " ++ className ++ "(self.snapshot)")
  w.replacingSetter p.attributeName p.hint.text p.conditional

/-- The attribute that gives the fragments of a record. -/
def fragmentsAccessor (w : Writer) (qualifiedName : String) : Writer :=
  let className := qualifiedName ++ ".Fragments"
  let w := w.getter "fragments" className none fun w => w.line ("return " ++ className ++ "(self.snapshot)")
  w.replacingSetter "fragments" className false

/-- The class that gives a record as each of its fragments. -/
def fragmentsClass (w : Writer) (ps : List Property) : Writer :=
  w.declaration "Fragments" ["SnapshotContainer"] none fun w => ps.foldl fragmentAccessor w

/-- The members of a record class, without its nested classes. -/
def recordMembers (w : Writer) (c : RecordClass) : Writer :=
  let w := match c.source with
    | some source => w.sourceAttribute "fragment_string" source
    | none => w
  let w := w.separate.wrapped "possible_types = [" (c.possibleTypes.map stringLiteral) "]"
  let w := w.method "selections" ["cls"] (some "List[GraphQLSelection]") ["classmethod"] fun w =>
    (w.line "return ").descriptorList c.selections
  let w := c.factories.foldl (factory c.qualifiedName) w
  let w := c.fields.foldl fieldAccessor w
  let w := c.conditions.foldl conditionAccessor w
  if c.fragments.isEmpty then w else w.fragmentsAccessor c.qualifiedName

mutual

/-- The class of a selection set: its members, then the classes of its type conditions, of its fragments and of its
composite fields. -/
def recordClass (w : Writer) : RecordClass → Writer
  | c@⟨name, _, base, _, _, _, _, _, _, fragments, conditionClasses, fieldClasses⟩ =>
    w.declaration name [base] none fun w =>
      let w := (w.recordMembers c).recordClasses conditionClasses
      let w := if fragments.isEmpty then w else w.fragmentsClass fragments
      w.recordClasses fieldClasses

/-- Record classes one after another. -/
def recordClasses (w : Writer) : List RecordClass → Writer
  | [] => w
  | c :: rest => (w.recordClass c).recordClasses rest

end

/-! ## Operations -/

/-- The variables of an operation: their annotations, the method that sets them and the attribute that gives them. -/
def parameters (w : Writer) (ps : List Property) : Writer :=
  let w := w.separate.lines (ps.map fun p => p.attributeName ++ ": " ++ p.hint.text)
  let w := w.method "__init__" (Property.parameters "self" ps) (some "None") [] fun w =>
    w.lines (ps.map fun p => "self." ++ p.attributeName ++ " = " ++ p.attributeName)
  w.getter "variables" "Optional[GraphQLMap]" none fun w =>
    w.wrapped "return \x7b" (ps.map fun p => stringLiteral p.name ++ ": self." ++ p.attributeName) "\x7d"

/-- The method that gives the text of an operation with its fragments. -/
def requestString (w : Writer) (fragments : List String) : Writer :=
  w.method "request_string" ["cls"] (some "str") ["classmethod"] fun w =>
    w.wrapped "return \"\\n\".join([" ("cls.operation_string" :: fragments.map (· ++ ".fragment_string")) "])"

/-- The class of an operation. -/
def operationClass (w : Writer) (c : OperationClass) : Writer :=
  w.declaration c.name [c.base] none fun w =>
    let w := w.line ("operation_name = " ++ stringLiteral c.operationName)
    let w := if c.source == "" then w else w.separate.sourceAttribute "operation_string" c.source
    let w := match c.identifier with
      | some id => w.separate.line ("operation_identifier = " ++ stringLiteral id)
      | none => w
    let w := if c.fragments.isEmpty then w else w.requestString c.fragments
    let w := if c.parameters.isEmpty then w else w.parameters c.parameters
    w.recordClass c.data

/-! ## Modules -/

/-- A top-level class. -/
def topLevel (w : Writer) : Declaration → Writer
  | .enum c => w.enumClass c
  | .input c => w.inputClass c
  | .operation c => w.operationClass c
  | .fragment c => w.recordClass c

/-- All classes of a module, nested in a class of their own if there is one. -/
def allDeclarations (w : Writer) (wrapper : Option String) (ds : List Declaration) : Writer :=
  match wrapper with
  | some name => w.declaration name [] none fun w => ds.foldl topLevel w
  | none => ds.foldl topLevel w

end Writer

end TypedOperations
