import TypedOperations.Language.Document

/-!
# The meta field `__typename`

Insertion of `__typename` as the first selection of every selection set that belongs to a field or a fragment
definition, so that every record of a response tells its type. The selection sets of operations and inline fragments
keep their selections.
-/

namespace TypedOperations.Language

/-- The selection is `__typename` without a label. -/
def Selection.isTypename : Selection → Bool
  | .field none name _ _ _ => name == "__typename"
  | _ => false

/-- The field `__typename` without label, arguments and directives. -/
def Selection.typename : Selection :=
  .field none "__typename" [] [] none

/-- Selections with a `__typename` at the front and no other one without a label. -/
def leadTypename (selections : List Selection) : List Selection :=
  .typename :: selections.filter fun s => !s.isTypename

mutual

/-- The selection with `__typename` inserted in the selection sets of the fields in it. -/
def Selection.addTypename : Selection → Selection
  | .field label name args ds none => .field label name args ds none
  | .field label name args ds (some sub) => .field label name args ds (some (leadTypename (addTypenames sub)))
  | .spread fragment ds => .spread fragment ds
  | .inline condition ds sub => .inline condition ds (addTypenames sub)

/-- The selections with `__typename` inserted in the selection sets of the fields in them. -/
def addTypenames : List Selection → List Selection
  | [] => []
  | s :: rest => s.addTypename :: addTypenames rest

end

/-- The definition with `__typename` inserted. -/
def Definition.addTypename : Definition → Definition
  | .operation o => .operation { o with selections := addTypenames o.selections }
  | .fragment f => .fragment { f with selections := leadTypename (addTypenames f.selections) }
  | d => d

/-- The document with `__typename` inserted. -/
def addTypename (d : Document) : Document :=
  d.map Definition.addTypename

end TypedOperations.Language
