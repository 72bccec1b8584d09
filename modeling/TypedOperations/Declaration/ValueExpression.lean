import TypedOperations.Fault
import TypedOperations.Layout.StringLiteral
import TypedOperations.Selection.Basic

/-!
# Value expressions

Argument values as expressions of a generated module: literals for plain data, and an object for every reference to a
variable. Other objects have no expression.
-/

namespace TypedOperations

namespace Value

mutual

/-- The expression of a value. -/
def expression : Value → Except Fault String
  | .null => .ok "None"
  | .bool b => .ok (if b then "True" else "False")
  | .int i => .ok (toString i)
  | .float x => .ok x.text
  | .string s => .ok (stringLiteral s)
  | .member _ _ wire => .ok (stringLiteral wire)
  | .var name => .ok ("GraphQLVariable(" ++ stringLiteral name ++ ")")
  | .list items => do return "[" ++ String.intercalate ", " (← expressions items) ++ "]"
  | .keyed entries => do return keyedText (← entryExpressions entries)
  | .boundVar name => .error (.unsupportedValue (Value.boundVar name).text)
  | .input className entries => .error (.unsupportedValue (Value.input className entries).text)
  | .view className snapshot => .error (.unsupportedValue (Value.view className snapshot).text)
  | .bytes letters => .error (.unsupportedValue (Value.bytes letters).text)

/-- The expressions of values. -/
def expressions : List Value → Except Fault (List String)
  | [] => .ok []
  | v :: rest => do
    let first ← v.expression
    return first :: (← expressions rest)

/-- The expressions of entries. -/
def entryExpressions : List (String × Value) → Except Fault (List String)
  | [] => .ok []
  | (k, v) :: rest => do
    let first ← v.expression
    return (stringLiteral k ++ ": " ++ first) :: (← entryExpressions rest)

end

end Value

/-- The expression of the arguments of a field, by name. -/
def argumentsExpression (args : List Argument) : Except Fault String := do
  return Value.keyedText (← Value.entryExpressions (args.map fun a => (a.name, a.value)))

end TypedOperations
