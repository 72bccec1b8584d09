import TypedOperations.Value

/-!
# Wire values

What is sent of the variables of an operation: enum members become their wire text and input objects their maps, at any
depth of lists; entries without a value are left out of the variables and of the maps of input objects.
-/

namespace TypedOperations

namespace Value

mutual

/-- The wire form of a value. -/
def toWire : Value → Value
  | .input _ entries => .keyed (entriesToWire entries)
  | .member _ _ wire => .string wire
  | .list items => .list (allToWire items)
  | v => v

/-- The wire forms of values. -/
def allToWire : List Value → List Value
  | [] => []
  | v :: rest => v.toWire :: allToWire rest

/-- The entries that have a value, with its wire form. -/
def entriesToWire : List (String × Value) → List (String × Value)
  | [] => []
  | (_, .null) :: rest => entriesToWire rest
  | (k, v) :: rest => (k, v.toWire) :: entriesToWire rest

end

end Value

/-- What is sent of variables. -/
def serializeVariables (values : Entries Value) : Entries Value :=
  Value.entriesToWire values

/-- The body of a request: the name and the text of the operation, and its variables if there are any. -/
def requestBody (name text : String) (values : Entries Value) : Value :=
  let sent := serializeVariables values
  .keyed ([("operationName", .string name), ("query", .string text)] ++
    if sent.isEmpty then [] else [("variables", .keyed sent)])

/-- The text of an operation with the texts of its fragments. -/
def requestText (operation : String) (fragments : List String) : String :=
  String.intercalate "\n" (operation :: fragments)

/-- The tag of the type of a field, as a generated module holds it. -/
inductive OutputType where
  | scalar (type : String)
  | object (fields : List String)
  | list (item : OutputType)
  | nonNull (inner : OutputType)
deriving DecidableEq, Repr, Inhabited

/-- The tag inside all layers. -/
def OutputType.named : OutputType → OutputType
  | .list item => item.named
  | .nonNull inner => inner.named
  | t => t

/-- The response key of a field: its label, if it has one that is not empty, or its name. -/
def responseKey (name : String) (label : Option String) : String :=
  match label with
  | some l => if l == "" then name else l
  | none => name

end TypedOperations
