import TypedOperations.Value

/-!
# Plain values

The values that hold no others. Numbers are equal if they have one value whatever their kind, and members of enums are equal
to their wire text.
-/

namespace TypedOperations

/-- A plain value. -/
inductive Scalar where
  | null
  | bool (value : Bool)
  | int (value : Int)
  | float (value : Binary64)
  | string (value : String)
  | var (name : String)
  | boundVar (name : String)
  | member (enum name wire : String)
  | bytes (letters : String)
deriving DecidableEq, Repr, Inhabited

namespace Scalar

/-- The plain value as a value. -/
def toValue : Scalar → Value
  | .null => .null
  | .bool b => .bool b
  | .int i => .int i
  | .float x => .float x
  | .string s => .string s
  | .var name => .var name
  | .boundVar name => .boundVar name
  | .member enum name wire => .member enum name wire
  | .bytes letters => .bytes letters

/-- There is only one object for the plain value. -/
def isUnique : Scalar → Bool
  | .null => true
  | .bool _ => true
  | .int i => decide (-5 ≤ i) && decide (i ≤ 256)
  | .string s =>
    match s.toList with
    | [] => true
    | [c] => decide (c.toNat < 256)
    | _ => false
  | .member .. => true
  | .bytes letters => decide (letters.length ≤ 1)
  | _ => false

/-- The plain value as an integer, if it is a whole number or a truth value. -/
def asInt? : Scalar → Option Int
  | .bool b => some (if b then 1 else 0)
  | .int i => some i
  | _ => none

/-- The text of a string or of a member of an enum. -/
def asText? : Scalar → Option String
  | .string s => some s
  | .member _ _ wire => some wire
  | _ => none

/-- The plain value as it is named in errors: a text stands for itself. -/
def shown (v : Scalar) : String :=
  v.asText?.getD v.toValue.text

/-- The plain values are equal. -/
def equals (a b : Scalar) : Bool :=
  match a, b with
  | .null, .null => true
  | .float x, .float y => x.eqValue y
  | .float x, b => b.asInt?.elim false x.eqInt
  | a, .float y => a.asInt?.elim false y.eqInt
  | .var x, .var y => x == y
  | .boundVar x, .boundVar y => x == y
  | .bytes x, .bytes y => x == y
  | a, b =>
    match a.asInt?, b.asInt?, a.asText?, b.asText? with
    | some i, some j, _, _ => i == j
    | _, _, some s, some t => s == t
    | _, _, _, _ => false

end Scalar

end TypedOperations
