import TypedOperations.Number.Decimal
import TypedOperations.Schema.Basic

/-!
# Literals of the right type

Which literals an input type accepts. A single value is accepted for a list; a custom scalar accepts every literal.
-/

namespace TypedOperations.Schema

open TypedOperations.Language

/-- The numeral is a 32-bit integer. -/
def isInt32 (digits : String) : Bool :=
  let n := Decimal.intOfText digits
  decide (-2147483648 ≤ n) && decide (n ≤ 2147483647)

/-- A built-in scalar accepts the literal. -/
def scalarAccepts (name : String) (v : Literal) : Bool :=
  match name, v with
  | "Int", .int digits => isInt32 digits
  | "Float", .int _ => true
  | "Float", .float _ => true
  | "String", .string .. => true
  | "Boolean", .bool _ => true
  | "ID", .string .. => true
  | "ID", .int _ => true
  | _, _ => false

/-- A type accepts the literal as a scalar or enum value. -/
def leafAccepts (s : Schema) (name : String) (v : Literal) : Bool :=
  match s.type? name with
  | none => true
  | some t =>
    match t.body with
    | .scalar => !builtInScalars.contains name || scalarAccepts name v
    | .enum _ =>
      match v with
      | .enum member => t.values.any (·.name == member)
      | _ => false
    | _ => false

/-- The fields of an input object type, and whether exactly one of them must be given. -/
def inputObject? (s : Schema) (name : String) : Option (List InputValue × Bool) :=
  match s.type? name with
  | some t =>
    match t.body with
    | .inputObject fields oneOf => some (fields, oneOf)
    | _ => none
  | none => none

/-- The fields that count: of two fields of one name the later. -/
def lastFields : List (String × Literal) → List (String × Literal)
  | [] => []
  | f :: rest => if rest.any (·.1 == f.1) then lastFields rest else f :: lastFields rest

/-- An object names every field that must be given, and exactly one that is not null if the type asks for one. -/
def isComplete (declared : List InputValue) (oneOf : Bool) (fields : List (String × Literal)) : Bool :=
  (declared.all fun d => !d.isNeeded || fields.any (·.1 == d.name)) &&
    (!oneOf ||
      match lastFields fields with
      | [(_, .null)] => false
      | [_] => true
      | _ => false)

mutual

/-- A type accepts the literal; a type that is not known accepts everything. -/
def accepts (s : Schema) (type : Option (TypeRef String)) : Literal → Bool
  | .var _ => true
  | .null => type.elim true fun t => !t.isRequired
  | .list items =>
    match type with
    | none => true
    | some (.list item _) => acceptsAll s (some item) items
    | some (.named name _) => leafAccepts s name (.list items)
  | .object fields =>
    match type with
    | none => true
    | some t =>
      match s.inputObject? t.base with
      | some (declared, oneOf) => isComplete declared oneOf fields && acceptsFields s declared fields
      | none => leafAccepts s t.base (.object fields)
  | v => type.elim true fun t => leafAccepts s t.base v

/-- A type accepts every literal. -/
def acceptsAll (s : Schema) (type : Option (TypeRef String)) : List Literal → Bool
  | [] => true
  | v :: rest => accepts s type v && acceptsAll s type rest

/-- Every field is declared, and its type accepts what the last field of its name holds. -/
def acceptsFields (s : Schema) (declared : List InputValue) : List (String × Literal) → Bool
  | [] => true
  | (name, v) :: rest =>
    (match declared.find? (·.name == name) with
      | some d => rest.any (·.1 == name) || accepts s (some d.type) v
      | none => false) && acceptsFields s declared rest

end

end TypedOperations.Schema
