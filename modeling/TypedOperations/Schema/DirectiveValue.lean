import TypedOperations.Language.Origin
import TypedOperations.Schema.Build

/-!
# Values that a schema takes from directives

The addresses of scalars and the deprecations of directives and of their arguments are read when the schema is made; those
of fields and of their arguments are read after that, type by type, and an error in them says which type it keeps from
being made. The deprecations of enum values wait until the values are asked for.
-/

namespace TypedOperations.Schema

open TypedOperations.Language

/-- What is wrong with the deprecations of arguments or input fields. -/
def inputFault? (vs : List InputValueDefinition) : Option DirectiveFault :=
  vs.findSome? fun v => reasonFault? v.directives

/-- What is wrong with the values that are read with a type or one of its extensions. -/
def ownFault? (t : TypeDefinition) : Option DirectiveFault :=
  match t.shape with
  | .scalar => addressFault? t.directives
  | _ => none

/-- What is wrong with the deprecations of the fields of a type or of one of its extensions. -/
def fieldsFault? (t : TypeDefinition) : Option DirectiveFault :=
  match t.shape with
  | .object _ fs => fs.findSome? field
  | .interface _ fs => fs.findSome? field
  | .inputObject fs => inputFault? fs
  | _ => none
where
  /-- What is wrong with the deprecation of a field or of its arguments. -/
  field (f : FieldDefinition) : Option DirectiveFault :=
    (inputFault? f.arguments).or (reasonFault? f.directives)

/-- A value that a directive cannot take, and where. -/
structure BadValue where
  /-- The type that cannot be made, if the value is read after the type itself. -/
  type : Option String
  fault : DirectiveFault
  origin : Origin

/-- The wording of an error. The place of the value is shown if another error is the cause of this one. -/
def BadValue.message (b : BadValue) : String :=
  match b.type with
  | none => b.fault.message
  | some type =>
    let place := b.fault.place?.elim "" fun left => "\n\n" ++ b.origin.excerpt (b.origin.position left)
    type ++ " fields cannot be resolved. " ++ b.fault.message ++ place

/-- A definition with the text that it is from. -/
abbrev Sourced (α : Type) := Origin × α

/-- The definition of each type, followed by its extensions. -/
def typeParts (ds : List (Sourced Definition)) : List (Sourced TypeDefinition) :=
  let extensions := ds.filterMap fun
    | (o, .extendType t) => some (o, t)
    | _ => none
  ds.flatMap fun
    | (o, .type t) => if (standardType? t.name).isSome then [] else (o, t) :: extensions.filter (·.2.name == t.name)
    | _ => []

/-- What is wrong with the deprecation of a directive, which its extensions may declare, and with those of its
arguments. -/
def directiveFault? (ds : List (Sourced Definition)) (d : DirectiveDefinition) : Option DirectiveFault :=
  let added := ds.findSome? fun
    | (_, .extendDirective e) => if e.name == d.name then reasonFault? e.directives else none
    | _ => none
  ((reasonFault? d.directives).or added).or (inputFault? d.arguments)

/-- The first value that a directive in the definitions cannot take, in the order in which a schema is made. -/
def badValue? (ds : List (Sourced Definition)) : Option BadValue :=
  let parts := typeParts ds
  let own := parts.findSome? fun (o, t) => (ownFault? t).map fun e => ⟨none, e, o⟩
  let directives := ds.findSome? fun
    | (o, .directive d) => (directiveFault? ds d).map fun e => ⟨none, e, o⟩
    | _ => none
  let fields := parts.findSome? fun (o, t) => (fieldsFault? t).map fun e => ⟨some t.name, e, o⟩
  (own.or directives).or fields

end TypedOperations.Schema
