import TypedOperations.Entries
import TypedOperations.Number.Binary64

/-!
# JSON values

A JSON value with its object members in order. Integers have any size; every other number is a double.
-/

namespace TypedOperations

/-- A JSON value. -/
inductive Json where
  | null
  | bool (value : Bool)
  | int (value : Int)
  | float (value : Binary64)
  | string (value : String)
  | array (items : List Json)
  | object (members : List (String × Json))
deriving Inhabited

namespace Json

/-- The value of a member of an object; nothing for other values. -/
def get? (j : Json) (name : String) : Option Json :=
  match j with
  | .object members => Entries.get? members name
  | _ => none

/-- The value counts as true: it is not null, false, a zero or empty. -/
def isTrue : Json → Bool
  | .null => false
  | .bool b => b
  | .int i => i != 0
  | .float (.finite _ mantissa _) => mantissa != 0
  | .float _ => true
  | .string s => s != ""
  | .array items => !items.isEmpty
  | .object members => !members.isEmpty

mutual

/-- How deep arrays and objects nest. -/
def depth : Json → Nat
  | .array items => depthOfItems items + 1
  | .object members => depthOfMembers members + 1
  | _ => 0

/-- How deep arrays and objects nest in items. -/
def depthOfItems : List Json → Nat
  | [] => 0
  | j :: rest => max j.depth (depthOfItems rest)

/-- How deep arrays and objects nest in members. -/
def depthOfMembers : List (String × Json) → Nat
  | [] => 0
  | (_, j) :: rest => max j.depth (depthOfMembers rest)

end

end Json

end TypedOperations
