import TypedOperations.Language.Printer

/-!
# Faults in parts of a schema

Names that are no names and values that directives cannot take. The reason of a deprecation and the address of a
specification are texts.
-/

namespace TypedOperations.Schema

open TypedOperations.Language

/-- Why a text cannot be a name. -/
inductive NameFault where
  | empty
  | badCharacter
  | badStart
  /-- It is one of the words that are literals. -/
  | literalWord
deriving DecidableEq, Repr

/-- What is said of a text that cannot be a name. -/
def NameFault.message (name : String) : NameFault → String
  | .empty => "Expected name to be a non-empty string."
  | .badCharacter => "Names must only contain [_a-zA-Z0-9] but " ++ Text.quoted name ++ " does not."
  | .badStart => "Names must start with [_a-zA-Z] but " ++ Text.quoted name ++ " does not."
  | .literalWord => "Enum values cannot be named: " ++ name ++ "."

/-- A value that an argument of a directive cannot take. -/
inductive DirectiveFault where
  /-- The value is not of the scalar type; `place` is what is left of the tokens from it on, if it is one token. -/
  | unfit (argument scalar shown : String) (place : Option Nat)
  | null (argument scalar : String) (place : Nat)
  | missing (argument scalar : String)
deriving DecidableEq, Repr

namespace DirectiveFault

/-- The wording of a fault. -/
def message : DirectiveFault → String
  | .unfit argument scalar shown _ =>
    "Argument '" ++ argument ++ "' has invalid value: " ++ scalar ++ " cannot represent a non " ++
      String.ofList (scalar.toList.map Char.toLower) ++ " value: " ++ shown
  | .null argument scalar _ =>
    "Argument '" ++ argument ++ "' has invalid value: Expected value of non-null type '" ++ scalar ++
      "!' not to be None."
  | .missing argument scalar => "Argument '" ++ argument ++ "' of required type '" ++ scalar ++ "!' was not provided."

/-- What is left of the tokens from the value on, if the value has a place of its own. -/
def place? : DirectiveFault → Option Nat
  | .unfit _ _ _ place => place
  | .null _ _ place => some place
  | .missing .. => none

end DirectiveFault

/-- The value of an argument does not fit a scalar type. -/
def unfit (scalar : String) (a : Argument) : DirectiveFault :=
  .unfit a.name scalar (Printer.literal a.value) <|
    match a.value with
    | .list _ => none
    | .object _ => none
    | _ => some a.tokensLeft

/-- What is wrong with a value that is to be a text. -/
def textFault? (a : Argument) : Option DirectiveFault :=
  match a.value with
  | .string .. => none
  | .null => some (.null a.name "String" a.tokensLeft)
  | _ => some (unfit "String" a)

/-- What is wrong with the reason of a deprecation among directives. -/
def reasonFault? (ds : List Directive) : Option DirectiveFault := do
  let d ← ds.find? (·.name == "deprecated")
  textFault? (← d.arguments.find? (·.name == "reason"))

/-- What is wrong with the address of a specification among directives. -/
def addressFault? (ds : List Directive) : Option DirectiveFault := do
  let d ← ds.find? (·.name == "specifiedBy")
  match d.arguments.find? (·.name == "url") with
  | none => some (.missing "url" "String")
  | some a => textFault? a

/-- Why the values of an enum cannot be made. -/
inductive ValuesFault where
  | reason (cause : DirectiveFault)
  | badName (name : String) (cause : NameFault)
  /-- A value has no name. -/
  | nameless
  /-- A value or its name has the wrong shape. -/
  | malformed
deriving DecidableEq, Repr

/-- The wording of a fault. -/
def ValuesFault.message : ValuesFault → String
  | .reason cause => cause.message
  | .badName name cause => cause.message name
  | .nameless => "name"
  | .malformed => "The values of an enum cannot be read"

end TypedOperations.Schema
