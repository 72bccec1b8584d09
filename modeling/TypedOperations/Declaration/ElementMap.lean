import TypedOperations.TypeRef

/-!
# Mapping the elements of nested lists

Snapshots hold plain data where accessors give objects, inside any number of list and nullable layers. The expression that
converts one into the other follows the type: a nullable layer is a check for `None`, a list layer a comprehension, and
the transform stands innermost.
-/

namespace TypedOperations

/-- A piece of a transform. -/
inductive Transform.Piece where
  | text (s : String)
  | hole
deriving DecidableEq, Repr

/-- An expression with holes for the expression of an element. -/
abbrev Transform := List Transform.Piece

namespace Transform

/-- The transform with its holes filled. -/
def fill (f : Transform) (value : String) : String :=
  String.join (f.map fun
    | .text s => s
    | .hole => value)

/-- The snapshot of an element. -/
def snapshot : Transform := [.hole, .text ".snapshot"]

/-- The object of a class over an element. -/
def construct (className : String) : Transform := [.text (className ++ "("), .hole, .text ")"]

/-- The transform that a format describes, in which braces around nothing or `0` are a hole and doubled braces stand for
themselves. -/
def ofFormat : List Char → Transform
  | [] => []
  | '\x7b' :: '\x7b' :: rest => .text "\x7b" :: ofFormat rest
  | '\x7d' :: '\x7d' :: rest => .text "\x7d" :: ofFormat rest
  | '\x7b' :: '0' :: '\x7d' :: rest => .hole :: ofFormat rest
  | '\x7b' :: '\x7d' :: rest => .hole :: ofFormat rest
  | c :: rest => .text (String.singleton c) :: ofFormat rest

end Transform

/-- An expression that maps the elements of a value. -/
inductive ElementMap where
  /-- The transform at the value. -/
  | element (value : String)
  /-- The body for every item of a list. -/
  | each (body : ElementMap) (item source : String)
  /-- `None` if the value is, the body otherwise. -/
  | unlessNone (value : String) (body : ElementMap)
deriving DecidableEq, Repr, Inhabited

namespace ElementMap

/-- The expression as it is written. -/
def text (f : Transform) : ElementMap → String
  | .element value => f.fill value
  | .each body item source => "[" ++ body.text f ++ " for " ++ item ++ " in " ++ source ++ "]"
  | .unlessNone value body => "None if " ++ value ++ " is None else " ++ body.text f

/-- The expression with a check for `None` where the value may be null. -/
def checked (required : Bool) (value : String) (body : ElementMap) : ElementMap :=
  if required then body else .unlessNone value body

/-- The expression that maps the elements of `value`, which has type `t`; `depth` numbers the items of its lists. -/
def ofType {α : Type} (value : String) (depth : Nat) : TypeRef α → ElementMap
  | .named _ required => checked required value (.element value)
  | .list item required =>
    let name := "item" ++ toString depth
    checked required value (.each (ofType name (depth + 1) item) name value)

end ElementMap

end TypedOperations
