import TypedOperations.Snapshot.Scalar

/-!
# Maps with plain keys

Maps that remember the order in which their keys were first put. Any plain value can be a key; equal values are one key, and
the key that was put first stays.
-/

namespace TypedOperations

/-- A key: a plain value with the identity of its object, which is zero if there is only one. -/
structure Key where
  value : Scalar
  identity : Nat := 0
deriving DecidableEq, Repr, Inhabited

/-- The keys are one: the same object or equal values. -/
def Key.agrees (a b : Key) : Bool :=
  a == b || a.value.equals b.value

/-- A map in the order of first insertion. -/
abbrev Keyed (α : Type) := List (Key × α)

namespace Keyed

variable {α : Type}

/-- The value of a key. -/
def get? (es : Keyed α) (key : Key) : Option α :=
  match es with
  | [] => none
  | (k, a) :: rest => if k.agrees key then some a else get? rest key

/-- The map with the value of a key set: in its place if the key is there, at the end otherwise. -/
def put (es : Keyed α) (key : Key) (a : α) : Keyed α :=
  match es with
  | [] => [(key, a)]
  | (k, b) :: rest => if k.agrees key then (k, a) :: rest else (k, b) :: put rest key a

end Keyed

end TypedOperations
