import TypedOperations.Entries
import TypedOperations.Number.Binary64
import TypedOperations.Text.Quoted

/-!
# Values

The values that arguments, variables and snapshots hold: plain data, references to variables, and the objects that users
of a generated module put among them. Every value has a text that shows it.
-/

namespace TypedOperations

/-- A value. -/
inductive Value where
  | null
  | bool (value : Bool)
  | int (value : Int)
  | float (value : Binary64)
  | string (value : String)
  | list (items : List Value)
  | keyed (entries : List (String × Value))
  /-- A variable of the operation, in an argument. -/
  | var (name : String)
  /-- A variable of the operation, in a selection descriptor. -/
  | boundVar (name : String)
  /-- A member of an enum: the enum, the member and its wire text. -/
  | member (enum name wire : String)
  /-- An input object: its class and its map. -/
  | input (className : String) (entries : List (String × Value))
  /-- A view: its class and its snapshot. -/
  | view (className : String) (snapshot : Value)
  /-- A string of bytes, by the letters they stand for; nothing here supports it. -/
  | bytes (letters : String)
deriving Inhabited

namespace Value

/-- Entry texts between braces. -/
def keyedText (entries : List String) : String :=
  "\x7b" ++ String.intercalate ", " entries ++ "\x7d"

mutual

/-- The text that shows a value. -/
def text : Value → String
  | .null => "None"
  | .bool b => if b then "True" else "False"
  | .int i => toString i
  | .float x => x.text
  | .string s => Text.quoted s
  | .list items => "[" ++ String.intercalate ", " (texts items) ++ "]"
  | .keyed entries => keyedText (entryTexts entries)
  | .var name => "VariableReference(variable_name=" ++ Text.quoted name ++ ")"
  | .boundVar name => "GraphQLVariable(name=" ++ Text.quoted name ++ ")"
  | .member enum name wire => "<" ++ enum ++ "." ++ name ++ ": " ++ Text.quoted wire ++ ">"
  | .input className entries => className ++ "(" ++ keyedText (entryTexts entries) ++ ")"
  | .view className snapshot => className ++ "(" ++ snapshot.text ++ ")"
  | .bytes letters => "b'" ++ letters ++ "'"

/-- The texts of values. -/
def texts : List Value → List String
  | [] => []
  | v :: rest => v.text :: texts rest

/-- The texts of entries. -/
def entryTexts : List (String × Value) → List String
  | [] => []
  | (k, v) :: rest => (Text.quoted k ++ ": " ++ v.text) :: entryTexts rest

end

end Value

end TypedOperations
