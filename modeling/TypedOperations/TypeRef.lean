/-!
# Type references

A named type, or a list of a type reference, each required or nullable. The name is a parameter: it is a plain name in a
document, and a name with its kind once a schema has resolved it.
-/

namespace TypedOperations

/-- A reference to a type: a named type or a list, either of them required (`!`) or nullable. -/
inductive TypeRef (α : Type) where
  | named (base : α) (required : Bool)
  | list (item : TypeRef α) (required : Bool)
deriving DecidableEq, Repr, Inhabited

namespace TypeRef

variable {α β : Type}

/-- The reference excludes null. -/
def isRequired : TypeRef α → Bool
  | .named _ r => r
  | .list _ r => r

/-- The reference with its outermost layer required or not. -/
def withRequired (required : Bool) : TypeRef α → TypeRef α
  | .named a _ => .named a required
  | .list item _ => .list item required

/-- The reference with its outermost layer nullable. -/
def nullable (t : TypeRef α) : TypeRef α :=
  t.withRequired false

/-- The named type inside all lists. -/
def base : TypeRef α → α
  | .named a _ => a
  | .list item _ => item.base

/-- The reference with its named type mapped. -/
def map (f : α → β) : TypeRef α → TypeRef β
  | .named a r => .named (f a) r
  | .list item r => .list (item.map f) r

/-- The reference with its named type resolved, if it can be. -/
def mapM? (f : α → Option β) : TypeRef α → Option (TypeRef β)
  | .named a r => (f a).map (.named · r)
  | .list item r => (item.mapM? f).map (.list · r)

/-- The reference as it is written. -/
def text (name : α → String) : TypeRef α → String
  | .named a r => name a ++ (if r then "!" else "")
  | .list item r => "[" ++ item.text name ++ "]" ++ (if r then "!" else "")

end TypeRef

end TypedOperations
