import TypedOperations.Entries
import TypedOperations.Naming.Singular
import TypedOperations.Naming.WordCase
import TypedOperations.Text.Affix

/-!
# Names of what is declared

The names of generated classes and attributes. Attributes avoid reserved words and the names that every record defines
itself; the classes nested in one class get distinct names, by a number after the names that are taken.
-/

namespace TypedOperations.Naming

/-- The attributes that every record defines itself. -/
def recordAttributes : List String :=
  ["snapshot", "possible_types", "selections", "fragments", "make", "typename", "replace_snapshot", "graphql_map", "self",
   "cls"]

/-- The attributes that every operation defines itself. -/
def operationAttributes : List String :=
  ["variables", "operation_name", "operation_string", "operation_identifier", "request_string", "request_body"]

/-- The name without the underscores at its start. -/
def dropUnderscores (name : String) : String :=
  String.ofList (name.toList.dropWhile (· == '_'))

/-- The name of an enum member. -/
def enumMember (name : String) : String :=
  avoidReserved (upperCase name)

/-- The class of an operation, without the word for its kind. -/
def operationClass (name : String) : String :=
  pascalCase name

/-- The class of the record under a response key. -/
def recordClass (key : String) : String :=
  pascalCase (singular (dropUnderscores key))

/-- The class of a fragment. -/
def fragmentClass (name : String) : String :=
  pascalCase name

/-- The class of a type condition. -/
def conditionClass (type : String) : String :=
  "As" ++ pascalCase type

/-- The snake case of a name, without the underscores that mark a name as belonging to introspection. -/
def attributeBase (name : String) : String :=
  snakeCase (if Text.beginsWith name "__" then dropUnderscores name else name)

/-- The attribute of a response key, argument or fragment; `taken` holds more names to avoid. -/
def attributeName (name : String) (taken : List String := []) : String :=
  let base := attributeBase name
  if Text.isReserved base || recordAttributes.contains base || taken.contains base then base ++ "_" else base

/-- The attribute of a variable of an operation. -/
def variableAttribute (name : String) : String :=
  let base := attributeName name
  if operationAttributes.contains base then base ++ "_" else base

/-- The name with a number after it, counting up from `n` while the result is taken. -/
def numbered (base : String) (taken : List String) : Nat → Nat → String
  | 0, n => base ++ toString n
  | fuel + 1, n =>
    let name := base ++ toString n
    if taken.contains name then numbered base taken fuel (n + 1) else name

/-- The name itself, or the first numbered one that is not taken. -/
def fresh (base : String) (taken : List String) : String :=
  if taken.contains base then numbered base taken taken.length 2 else base

/-- The names so far with a record class for each of more keys, where `taken` holds the names that are not free. -/
def distinctFrom (names : Entries String) (taken : List String) : List String → Entries String
  | [] => names
  | key :: rest =>
    let name := fresh (recordClass key) taken
    distinctFrom (names.put key name) (name :: taken) rest

/-- A record class for each key, distinct from one another and from the names in `reserved`. -/
def distinctClasses (keys : List String) (reserved : List String) : Entries String :=
  distinctFrom [] reserved keys

end TypedOperations.Naming
