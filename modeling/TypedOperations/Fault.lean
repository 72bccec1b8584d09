import TypedOperations.Schema.PartFault

/-!
# Faults

Everything that can keep a module from being generated once its documents are resolved, by cause, with the wording of
each in one place.
-/

namespace TypedOperations

/-- Why no module can be generated. -/
inductive Fault where
  | unknownFragment (name : String)
  | cyclicFragments (name : String)
  | unmergedSpread (name : String)
  | unknownType (name : String)
  | unknownFieldType (name : String)
  | unsupportedValue (text : String)
  | unsupportedOperation (word : String)
  | noNestedClass (key : String)
  | noSelectionSet (key className : String)
  | blankDescription
  /-- What is said about a part of the schema is not a text. -/
  | unwritableRemark
  /-- The values of an enum cannot be made. -/
  | badValues (cause : Schema.ValuesFault)
  | nullCharacter
  | invalidModule
deriving DecidableEq, Repr, Inhabited

/-- The wording of a fault. -/
def Fault.message : Fault → String
  | .unknownFragment name => "Cannot find fragment \"" ++ name ++ "\""
  | .cyclicFragments name => "Fragment \"" ++ name ++ "\" spreads itself"
  | .unmergedSpread name => "Fragment spread \"" ++ name ++ "\" must be merged in before building a type case"
  | .unknownType name => "Unknown type: " ++ name
  | .unknownFieldType name => "Unknown field type: " ++ name
  | .unsupportedValue text => "Unsupported argument value: " ++ text
  | .unsupportedOperation word => "Unsupported operation type \"" ++ word ++ "\""
  | .noNestedClass key => "No nested class declared for field \"" ++ key ++ "\""
  | .noSelectionSet key className => "Composite field \"" ++ key ++ "\" in " ++ className ++ " has no selection set"
  | .blankDescription => "A description is blank"
  | .unwritableRemark => "A description is not a text"
  | .badValues cause => cause.message
  | .nullCharacter => "source code string cannot contain null bytes"
  | .invalidModule => "Generated invalid Python"

end TypedOperations
