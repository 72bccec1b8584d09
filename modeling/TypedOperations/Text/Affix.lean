/-!
# Beginnings and endings

Whether a text begins or ends with another one, character by character.
-/

namespace TypedOperations.Text

/-- The text begins with `start`. -/
def beginsWith (s start : String) : Bool :=
  start.toList.isPrefixOf s.toList

/-- The text ends with `ending`. -/
def endsIn (s ending : String) : Bool :=
  ending.toList.isSuffixOf s.toList

end TypedOperations.Text
