import TypedOperations.Language.Document
import TypedOperations.Language.Token

/-!
# Reading documents

A document from its tokens, by recursive descent over the grammar: executable definitions, and the definitions and
extensions of a type system. Lists of arguments, variables and members are never empty where they are written. Values,
types and selections nest to a fixed depth only.
-/

namespace TypedOperations.Language

/-- How deep selections, and the values in them, may nest; types may nest as deep. -/
def maxNesting : Nat := 200

/-- Reads something from the tokens that are left. -/
abbrev Parser := StateT (List Token) (Except SyntaxError)

namespace Parser

variable {α : Type}

/-- The tokens do not fit here. -/
def unexpected : Parser α := throw .unexpectedToken

/-- The next token, if there is one. -/
def peek? : Parser (Option Token) := do
  return (← get).head?

/-- The next token is `t`. -/
def peeks (t : Token) : Parser Bool := do
  return (← peek?) == some t

/-- The token `t` taken if it is next. -/
def skip? (t : Token) : Parser Bool := do
  match ← get with
  | t' :: rest => if t' == t then set rest; return true else return false
  | [] => return false

/-- The token `t` taken. -/
def expect (t : Token) : Parser Unit := do
  if !(← skip? t) then unexpected

/-- A mark taken. -/
def expectMark (c : Char) : Parser Unit := expect (.mark c)

/-- A mark taken if it is next. -/
def skipMark? (c : Char) : Parser Bool := skip? (.mark c)

/-- A word taken. -/
def expectWord (word : String) : Parser Unit := expect (.name word)

/-- A word taken if it is next. -/
def skipWord? (word : String) : Parser Bool := skip? (.name word)

/-- A name. -/
def name : Parser String := do
  match ← get with
  | .name n :: rest => set rest; return n
  | _ => unexpected

/-- Items up to a closing mark. -/
def untilMark (close : Char) (item : Parser α) : Nat → Parser (List α)
  | 0 => unexpected
  | fuel + 1 => do
    if ← skipMark? close then return []
    let first ← item
    return first :: (← untilMark close item fuel)

/-- Items between two marks. -/
def between (open' close : Char) (item : Parser α) : Parser (List α) := do
  expectMark open'
  untilMark close item ((← get).length + 1)

/-- At least one item between two marks. -/
def manyBetween (open' close : Char) (item : Parser α) : Parser (List α) := do
  expectMark open'
  let first ← item
  return first :: (← untilMark close item ((← get).length + 1))

/-- At least one item between two marks, or nothing where the opening mark is missing. -/
def optionalBetween (open' close : Char) (item : Parser α) : Parser (List α) := do
  if ← peeks (.mark open') then manyBetween open' close item else return []

/-- Items separated by a mark, after the first one. -/
def separatedRest (mark : Char) (item : Parser α) : Nat → Parser (List α)
  | 0 => return []
  | fuel + 1 => do
    if ← skipMark? mark then
      let next ← item
      return next :: (← separatedRest mark item fuel)
    else return []

/-- At least one item, separated by a mark that may also stand before the first. -/
def separated (mark : Char) (item : Parser α) : Parser (List α) := do
  let _ ← skipMark? mark
  let first ← item
  return first :: (← separatedRest mark item ((← get).length + 1))

/-- Items while the given mark comes next. -/
def whileMark (mark : Char) (item : Parser α) : Nat → Parser (List α)
  | 0 => return []
  | fuel + 1 => do
    if ← peeks (.mark mark) then
      let next ← item
      return next :: (← whileMark mark item fuel)
    else return []

/-! ## Values and types -/

/-- A variable. -/
def variableName : Parser String := do
  expectMark '$'
  name

/-- A value without parts; not a variable where it must be constant. -/
def plainValue (constant : Bool) : Parser Literal := do
  match ← get with
  | .mark '$' :: _ => if constant then unexpected else return .var (← variableName)
  | .int digits :: rest => set rest; return .int digits
  | .float digits :: rest => set rest; return .float digits
  | .string s :: rest => set rest; return .string s false
  | .block s :: rest => set rest; return .string s true
  | .name n :: rest =>
    set rest
    match n with
    | "true" => return .bool true
    | "false" => return .bool false
    | "null" => return .null
    | _ => return .enum n
  | _ => unexpected

/-- A value that may nest as deep as there is room; without variables where it must be constant. -/
def value (constant : Bool) : Nat → Parser Literal
  | 0 => plainValue constant
  | room + 1 => do
    match ← get with
    | .mark '[' :: _ => return .list (← between '[' ']' (value constant room))
    | .mark '\x7b' :: _ =>
      return .object (← between '\x7b' '\x7d' do
        let n ← name
        expectMark ':'
        return (n, ← value constant room))
    | _ => plainValue constant

/-- A reference to a named type. -/
def namedTypeRef : Parser (TypeRef String) := do
  let n ← name
  return .named n (← skipMark? '!')

/-- A type reference that may nest as deep as there is room. -/
def typeRef : Nat → Parser (TypeRef String)
  | 0 => namedTypeRef
  | room + 1 => do
    if ← skipMark? '[' then
      let item ← typeRef room
      expectMark ']'
      return .list item (← skipMark? '!')
    else namedTypeRef

/-- A type reference. -/
def anyType : Parser (TypeRef String) :=
  typeRef maxNesting

/-- A named value. -/
def argument (constant : Bool) (room : Nat) : Parser Argument := do
  let n ← name
  expectMark ':'
  let left := (← get).length
  return ⟨n, ← value constant room, left⟩

/-- The arguments of a field or directive. -/
def arguments (constant : Bool) (room : Nat) : Parser (List Argument) :=
  optionalBetween '(' ')' (argument constant room)

/-- A directive. -/
def directive (constant : Bool) (room : Nat) : Parser Directive := do
  expectMark '@'
  let n ← name
  return ⟨n, ← arguments constant room⟩

/-- The directives at this place. -/
def directivesIn (constant : Bool) (room : Nat) : Parser (List Directive) := do
  whileMark '@' (directive constant room) ((← get).length + 1)

/-- The directives at a place outside of selections. -/
def directives (constant : Bool) : Parser (List Directive) :=
  directivesIn constant maxNesting

/-- A default value. -/
def fallback : Parser (Option Literal) := do
  if ← skipMark? '=' then return some (← value true maxNesting) else return none

/-- A description, if there is one. -/
def description : Parser (Option Description) := do
  match ← get with
  | .string s :: rest => set rest; return some ⟨s, false⟩
  | .block s :: rest => set rest; return some ⟨s, true⟩
  | _ => return none

/-! ## Executable definitions -/

/-- The name of a fragment, which is not `on`. -/
def fragmentName : Parser String := do
  let n ← name
  if n == "on" then unexpected else return n

/-- What follows the three dots: a type condition and selections, or the name of a fragment. -/
def afterDots (room : Nat) (selections : Parser (List Selection)) : Parser Selection := do
  if ← skipWord? "on" then
    let condition ← name
    let ds ← directivesIn false room
    return .inline (some condition) ds (← selections)
  else
    match ← get with
    | .name _ :: _ =>
      let n ← fragmentName
      return .spread n (← directivesIn false room)
    | _ =>
      let ds ← directivesIn false room
      return .inline none ds (← selections)

/-- A field. -/
def field (room : Nat) (selections : Parser (List Selection)) : Parser Selection := do
  let first ← name
  let (label, n) ← if ← skipMark? ':' then pure (some first, ← name) else pure (none, first)
  let args ← arguments false room
  let ds ← directivesIn false room
  let sub ← if ← peeks (.mark '\x7b') then some <$> selections else pure none
  return .field label n args ds sub

/-- A selection set, which may be empty and may nest as deep as there is room. -/
def selectionSet : Nat → Parser (List Selection)
  | 0 => unexpected
  | room + 1 =>
    between '\x7b' '\x7d' do
      if ← skip? .spread then afterDots room (selectionSet room) else field room (selectionSet room)

/-- The selection set of a definition. -/
def anySelectionSet : Parser (List Selection) :=
  selectionSet maxNesting

/-- The declaration of a variable. -/
def variableDefinition : Parser VariableDefinition := do
  let d ← description
  let n ← variableName
  expectMark ':'
  let t ← anyType
  let v ← fallback
  return ⟨d, n, t, v, ← directives true⟩

/-- The kind of operation that comes next. -/
def operationKind : Parser OperationKind := do
  match ← name with
  | "query" => return .query
  | "mutation" => return .mutation
  | "subscription" => return .subscription
  | _ => unexpected

/-- An operation, which may be written as its selections alone. -/
def operation : Parser OperationDefinition := do
  if ← peeks (.mark '\x7b') then return ⟨none, .query, none, [], [], ← anySelectionSet⟩
  let d ← description
  let kind ← operationKind
  let n ← match ← peek? with
    | some (.name _) => some <$> name
    | _ => pure none
  let vs ← optionalBetween '(' ')' variableDefinition
  let ds ← directives false
  return ⟨d, kind, n, vs, ds, ← anySelectionSet⟩

/-- A fragment definition. -/
def fragment : Parser FragmentDefinition := do
  let d ← description
  expectWord "fragment"
  let n ← fragmentName
  expectWord "on"
  let condition ← name
  let ds ← directives false
  return ⟨d, n, condition, ds, ← anySelectionSet⟩

/-! ## Type system definitions -/

/-- The root type of a kind of operation. -/
def rootType : Parser (OperationKind × String) := do
  let kind ← operationKind
  expectMark ':'
  return (kind, ← name)

/-- A schema definition. -/
def schemaDefinition : Parser SchemaDefinition := do
  let d ← description
  expectWord "schema"
  let ds ← directives true
  return ⟨d, ds, ← manyBetween '\x7b' '\x7d' rootType⟩

/-- The declaration of an argument or input field. -/
def inputValue : Parser InputValueDefinition := do
  let d ← description
  let n ← name
  expectMark ':'
  let t ← anyType
  let v ← fallback
  return ⟨d, n, t, v, ← directives true⟩

/-- The declaration of a field. -/
def fieldDefinition : Parser FieldDefinition := do
  let d ← description
  let n ← name
  let args ← optionalBetween '(' ')' inputValue
  expectMark ':'
  let t ← anyType
  return ⟨d, n, args, t, ← directives true⟩

/-- The declaration of an enum value, whose name is not one of the literal words. -/
def enumValue : Parser EnumValueDefinition := do
  let d ← description
  let n ← name
  if n == "true" || n == "false" || n == "null" then unexpected
  return ⟨d, n, ← directives true⟩

/-- The interfaces a type implements. -/
def interfaces : Parser (List String) := do
  if ← skipWord? "implements" then separated '&' name else return []

/-- The fields of an object or interface type. -/
def fieldDefinitions : Parser (List FieldDefinition) :=
  optionalBetween '\x7b' '\x7d' fieldDefinition

/-- The rest of a type definition after the word for its kind. -/
def typeBody (d : Option Description) (kind : String) : Parser TypeDefinition := do
  let n ← name
  match kind with
  | "scalar" => return ⟨d, n, ← directives true, .scalar⟩
  | "type" =>
    let is ← interfaces
    let ds ← directives true
    return ⟨d, n, ds, .object is (← fieldDefinitions)⟩
  | "interface" =>
    let is ← interfaces
    let ds ← directives true
    return ⟨d, n, ds, .interface is (← fieldDefinitions)⟩
  | "union" =>
    let ds ← directives true
    let members ← if ← skipMark? '=' then separated '|' name else pure []
    return ⟨d, n, ds, .union members⟩
  | "enum" =>
    let ds ← directives true
    return ⟨d, n, ds, .enum (← optionalBetween '\x7b' '\x7d' enumValue)⟩
  | "input" =>
    let ds ← directives true
    return ⟨d, n, ds, .inputObject (← optionalBetween '\x7b' '\x7d' inputValue)⟩
  | _ => unexpected

/-- A directive location. -/
def location : Parser Location := do
  match Location.ofWord? (← name) with
  | some l => return l
  | none => unexpected

/-- A directive definition. -/
def directiveDefinition : Parser DirectiveDefinition := do
  let d ← description
  expectWord "directive"
  expectMark '@'
  let n ← name
  let args ← optionalBetween '(' ')' inputValue
  let ds ← directives true
  let repeatable ← skipWord? "repeatable"
  expectWord "on"
  return ⟨d, n, args, ds, repeatable, ← separated '|' location⟩

/-- An extension says something: it has directives or members. -/
def extends? (t : TypeDefinition) : Bool :=
  !t.directives.isEmpty ||
    match t.shape with
    | .scalar => false
    | .object is fs => !is.isEmpty || !fs.isEmpty
    | .interface is fs => !is.isEmpty || !fs.isEmpty
    | .union ms => !ms.isEmpty
    | .enum vs => !vs.isEmpty
    | .inputObject fs => !fs.isEmpty

/-- The words that introduce type definitions. -/
def typeWords : List String := ["scalar", "type", "interface", "union", "enum", "input"]

/-- An extension of the schema, of a type or of a directive. -/
def extension : Parser Definition := do
  expectWord "extend"
  let kind ← name
  if kind == "schema" then
    let ds ← directives true
    let roots ← optionalBetween '\x7b' '\x7d' rootType
    if ds.isEmpty && roots.isEmpty then unexpected
    return .extendSchema ⟨none, ds, roots⟩
  else if typeWords.contains kind then
    let t ← typeBody none kind
    if !extends? t then unexpected
    return .extendType t
  else if kind == "directive" then
    expectMark '@'
    let n ← name
    let ds ← directives true
    if ds.isEmpty then unexpected
    return .extendDirective ⟨n, ds⟩
  else unexpected

/-- A definition; only some may have a description. -/
def definition : Parser Definition := do
  let tokens ← get
  let described := match tokens with
    | .string _ :: _ => true
    | .block _ :: _ => true
    | _ => false
  let word := match if described then tokens.tail else tokens with
    | .name n :: _ => n
    | _ => ""
  if word == "schema" then return .schema (← schemaDefinition)
  else if typeWords.contains word then
    let d ← description
    let _ ← name
    return .type (← typeBody d word)
  else if word == "directive" then return .directive (← directiveDefinition)
  else if word == "fragment" then return .fragment (← fragment)
  else if word == "query" || word == "mutation" || word == "subscription" then return .operation (← operation)
  else if described then unexpected
  else if word == "extend" then extension
  else if tokens.head? == some (.mark '\x7b') then return .operation (← operation)
  else unexpected

/-- Definitions up to the end of the tokens. -/
def definitions : Nat → Parser Document
  | 0 => unexpected
  | fuel + 1 => do
    if (← get).isEmpty then return []
    let first ← definition
    return first :: (← definitions fuel)

/-- A whole document, which has at least one definition. -/
def document : Parser Document := do
  let first ← definition
  return first :: (← definitions ((← get).length + 1))

end Parser

/-- The document a text holds. -/
def parse (s : String) : Except SyntaxError Document := do
  let ts ← tokens s
  return (← Parser.document.run ts).1

/-- The constant value a text holds and nothing else. -/
def parseValue (s : String) : Except SyntaxError Literal := do
  let ts ← tokens s
  let (v, rest) ← (Parser.value true maxNesting).run ts
  if rest.isEmpty then return v else throw .unexpectedToken

/-- The type reference a text holds and nothing else. -/
def parseType (s : String) : Except SyntaxError (TypeRef String) := do
  let ts ← tokens s
  let (t, rest) ← Parser.anyType.run ts
  if rest.isEmpty then return t else throw .unexpectedToken

end TypedOperations.Language
