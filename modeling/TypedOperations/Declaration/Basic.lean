import TypedOperations.Declaration.ElementMap
import TypedOperations.Declaration.Property
import TypedOperations.Layout.Docstring

/-!
# Declarations

The classes of a generated module, as data: what each declares, in the order in which it is written.
-/

namespace TypedOperations

/-- An entry of a list of selection descriptors. -/
inductive Descriptor where
  /-- A field: its name, its label, the expression of its arguments and the tag of its type. -/
  | field (name : String) (label : Option String) (arguments : Option String) (type : OutputExpression)
  /-- The class of a type condition, which is nested in the class at hand. -/
  | condition (className : String)
  /-- The class of a fragment, by its qualified name. -/
  | fragment (className : String)
  /-- Entries that a variable guards. -/
  | guarded (flag : String) (inverted : Bool) (body : List Descriptor)
deriving Inhabited

/-- A method that makes a record of one type from values for its fields. -/
structure Factory where
  name : String
  typename : String
  properties : List Property
deriving Inhabited

/-- How the value of a field is read from a snapshot. -/
inductive Reading where
  /-- As it is stored. -/
  | direct
  /-- Its elements, which are stored with the annotation `storage`, are transformed. -/
  | mapped (storage : TypeExpression) (transform : Transform)
deriving Inhabited

/-- The attribute of a field. -/
structure FieldAccessor where
  property : Property
  documentation : Option Docstring
  reading : Reading
deriving Inhabited

/-- The class of a selection set. -/
structure RecordClass where
  name : String
  qualifiedName : String
  base : String
  /-- The text of the fragment that the class is for. -/
  source : Option String
  possibleTypes : List String
  selections : List Descriptor
  factories : List Factory
  fields : List FieldAccessor
  conditions : List Property
  fragments : List Property
  conditionClasses : List RecordClass
  fieldClasses : List RecordClass
deriving Inhabited

/-- A member of an enum class. -/
structure EnumMember where
  comment : Option String
  name : String
  wire : String
deriving Inhabited

/-- The class of an enum. -/
structure EnumClass where
  name : String
  documentation : Option Docstring
  members : List EnumMember
deriving Inhabited

/-- The attribute of a field of an input object. -/
structure InputAccessor where
  property : Property
  documentation : Option Docstring
deriving Inhabited

/-- The class of an input object. -/
structure InputClass where
  name : String
  documentation : Option Docstring
  fields : List InputAccessor
deriving Inhabited

/-- The class of an operation. -/
structure OperationClass where
  name : String
  base : String
  operationName : String
  source : String
  identifier : Option String
  /-- The qualified names of the classes of the fragments that are sent with the operation. -/
  fragments : List String
  parameters : List Property
  data : RecordClass
deriving Inhabited

/-- A top-level class of a module. -/
inductive Declaration where
  | enum (c : EnumClass)
  | input (c : InputClass)
  | operation (c : OperationClass)
  | fragment (c : RecordClass)
deriving Inhabited

end TypedOperations
