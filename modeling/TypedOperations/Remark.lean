import TypedOperations.Json.Basic

/-!
# Remarks

What a schema says about one of its parts. Definitions say it in a text. An introspection result may say it by any value,
which is carried along; only a text can be written into a module.
-/

namespace TypedOperations

/-- What is said about a part of a schema. -/
inductive Remark where
  | text (value : String)
  /-- A value that is neither a text nor null. -/
  | other (value : Json)
deriving Inhabited

namespace Remark

/-- The remark that a value makes; null makes none. -/
def ofJson? : Json → Option Remark
  | .null => none
  | .string s => some (.text s)
  | j => some (.other j)

/-- The remark as a value. -/
def toJson : Remark → Json
  | .text s => .string s
  | .other j => j

end Remark

end TypedOperations
