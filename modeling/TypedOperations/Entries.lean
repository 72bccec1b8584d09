/-!
# Entries in insertion order

Maps from names to values that remember the order in which their names were first put: a list of pairs, searched from
the front. Putting a name that is there replaces its value in place; putting a new one adds it at the end.
-/

namespace TypedOperations

/-- A map from names to values in the order of first insertion. -/
abbrev Entries (α : Type) := List (String × α)

namespace Entries

variable {α : Type}

/-- The value of a name. -/
def get? (es : Entries α) (name : String) : Option α :=
  match es with
  | [] => none
  | (n, a) :: rest => if n == name then some a else get? rest name

/-- The name is there. -/
def has (es : Entries α) (name : String) : Bool :=
  (es.get? name).isSome

/-- The entries with the value of a name set: in its place if the name is there, at the end otherwise. -/
def put (es : Entries α) (name : String) (a : α) : Entries α :=
  match es with
  | [] => [(name, a)]
  | (n, b) :: rest => if n == name then (n, a) :: rest else (n, b) :: put rest name a

/-- The names in order. -/
def names (es : Entries α) : List String :=
  es.map (·.1)

/-- The values in order. -/
def values (es : Entries α) : List α :=
  es.map (·.2)

/-- The entries that putting the pairs one after another gives. -/
def ofPairs (pairs : List (String × α)) : Entries α :=
  pairs.foldl (fun es p => es.put p.1 p.2) []

end Entries

end TypedOperations
