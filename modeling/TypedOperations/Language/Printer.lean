import TypedOperations.Language.Document
import TypedOperations.Text.Blank
import TypedOperations.Text.Quoted

/-!
# Printing documents

A document in its canonical text: two blanks of indentation a level, a blank line between definitions, and arguments,
lists and objects broken over several lines where one line would have more than 80 characters.
-/

namespace TypedOperations.Language

namespace Printer

/-- The longest argument list, list or object kept on one line. -/
def maxLineLength : Nat := 80

/-- The texts that are not empty, with a separator between them. -/
def join (sep : String) (parts : List String) : String :=
  String.intercalate sep (parts.filter (· != ""))

/-- The text between two others, or nothing if it is empty. -/
def wrap (opening text closing : String) : String :=
  if text == "" then "" else opening ++ text ++ closing

/-- A line feed followed by two blanks for every line feed. -/
def indentChars : List Char → List Char
  | [] => []
  | c :: rest => if c == '\n' then '\n' :: ' ' :: ' ' :: indentChars rest else c :: indentChars rest

/-- The text moved two blanks to the right. -/
def indent (text : String) : String :=
  if text == "" then "" else "  " ++ String.ofList (indentChars text.toList)

/-- The texts as lines between braces, or nothing if there are none. -/
def block (parts : List String) : String :=
  wrap "\x7b\n" (indent (join "\n" parts)) "\n\x7d"

/-- The texts of a selection set as lines between braces, which stand together if there are none. -/
def selectionBlock (parts : List String) : String :=
  if parts.isEmpty then "\x7b\x7d" else block parts

/-- An upper-case hexadecimal digit. -/
def upperHex (n : Nat) : Char :=
  (Text.hexDigit n).toUpper

/-- One character of a quoted string. -/
def stringChar (c : Char) : List Char :=
  let n := c.toNat
  if c == '\x22' then ['\x5c', '\x22']
  else if c == '\x5c' then ['\x5c', '\x5c']
  else if n == 8 then ['\x5c', 'b']
  else if n == 9 then ['\x5c', 't']
  else if n == 10 then ['\x5c', 'n']
  else if n == 12 then ['\x5c', 'f']
  else if n == 13 then ['\x5c', 'r']
  else if n < 32 || (127 ≤ n && n < 160) then
    ['\x5c', 'u', '0', '0', upperHex (n / 16), upperHex (n % 16)]
  else [c]

/-- A quoted string. -/
def string (s : String) : String :=
  String.ofList ('\x22' :: (s.toList.flatMap stringChar ++ ['\x22']))

/-- The characters of a block string, with its closing quotes escaped inside. -/
def escapeBlock : List Char → List Char
  | [] => []
  | '\x22' :: '\x22' :: '\x22' :: rest => '\x5c' :: '\x22' :: '\x22' :: '\x22' :: escapeBlock rest
  | c :: rest => c :: escapeBlock rest

/-- The line is empty or starts with a blank or tab. -/
def startsIndented : List Char → Bool
  | [] => true
  | c :: _ => c == ' ' || c == '\t'

/-- A block string: on lines of its own if it has several lines, is long, or ends in a way that needs it. -/
def blockString (s : String) : String :=
  let cs := s.toList
  let escaped := escapeBlock cs
  let lines := Text.splitOn '\n' (Text.unifyLineEnds escaped)
  let single := lines.length ≤ 1
  let forceLeading := 1 < lines.length && (lines.drop 1).all startsIndented
  let endsInTriple := ("\x5c\"\"\"".toList).isSuffixOf escaped
  let endsInQuote := cs.getLast? == some '\x22' && !endsInTriple
  let endsInSlash := cs.getLast? == some '\x5c'
  let forceTrailing := endsInQuote || endsInSlash
  let multiple := !single || 70 < cs.length || forceTrailing || forceLeading || endsInTriple
  let skipLeading := single && startsIndented cs
  let leading := if (multiple && !skipLeading) || forceLeading then "\n" else ""
  let trailing := if multiple || forceTrailing then "\n" else ""
  "\"\"\"" ++ leading ++ String.ofList escaped ++ trailing ++ "\"\"\""

/-- A string in the form it was written. -/
def stringValue (value : String) (block : Bool) : String :=
  if block then blockString value else string value

mutual

/-- A value. -/
def literal : Literal → String
  | .var name => "$" ++ name
  | .int digits => digits
  | .float digits => digits
  | .string value block => stringValue value block
  | .bool b => if b then "true" else "false"
  | .null => "null"
  | .enum name => name
  | .list items =>
    let parts := literals items
    let line := "[" ++ join ", " parts ++ "]"
    if maxLineLength < line.length then "[\n" ++ indent (join "\n" parts) ++ "\n]" else line
  | .object fields =>
    let parts := objectFields fields
    let line := "\x7b " ++ join ", " parts ++ " \x7d"
    if maxLineLength < line.length then block parts else line

/-- Values one by one. -/
def literals : List Literal → List String
  | [] => []
  | v :: rest => literal v :: literals rest

/-- Object fields one by one. -/
def objectFields : List (String × Literal) → List String
  | [] => []
  | (name, v) :: rest => (name ++ ": " ++ literal v) :: objectFields rest

end

/-- A named value. -/
def argument (a : Argument) : String :=
  a.name ++ ": " ++ literal a.value

/-- A directive; its arguments stay on one line. -/
def directive (d : Directive) : String :=
  "@" ++ d.name ++ wrap "(" (join ", " (d.arguments.map argument)) ")"

/-- Directives separated by blanks. -/
def directives (ds : List Directive) : String :=
  join " " (ds.map directive)

/-- A type reference. -/
def typeRef (t : TypeRef String) : String :=
  t.text id

/-- A field up to its directives: label, name and arguments, one argument a line if they do not fit one line. -/
def fieldHead (label : Option String) (name : String) (args : List Argument) : String :=
  let head := (match label with
    | some l => l ++ ": "
    | none => "") ++ name
  let parts := args.map argument
  let line := head ++ wrap "(" (join ", " parts) ")"
  if maxLineLength < line.length then head ++ wrap "(\n" (indent (join "\n" parts)) "\n)" else line

mutual

/-- A selection. -/
def selection : Selection → String
  | .field label name args ds none => join " " [fieldHead label name args, directives ds]
  | .field label name args ds (some sub) => join " " [fieldHead label name args, directives ds, selectionBlock (selections sub)]
  | .spread fragment ds => "..." ++ fragment ++ wrap " " (directives ds) ""
  | .inline condition ds sub =>
    join " " ["...", match condition with
      | some c => "on " ++ c
      | none => "", directives ds, selectionBlock (selections sub)]

/-- Selections one by one. -/
def selections : List Selection → List String
  | [] => []
  | s :: rest => selection s :: selections rest

end

/-- A description on its own lines. -/
def description : Option Description → String
  | some d => stringValue d.value d.block ++ "\n"
  | none => ""

/-- A default value. -/
def fallback (opening : String) : Option Literal → String
  | some v => opening ++ literal v
  | none => ""

/-- The declaration of a variable. -/
def variableDefinition (v : VariableDefinition) : String :=
  description v.description ++ "$" ++ v.name ++ ": " ++ typeRef v.type ++ fallback " = " v.fallback ++
    wrap " " (directives v.directives) ""

/-- Some text has several lines. -/
def anyMultiline (parts : List String) : Bool :=
  parts.any fun p => p.toList.contains '\n'

/-- Variables on one line, or one a line without indentation if one of them has several lines. -/
def variableDefinitions (vs : List VariableDefinition) : String :=
  let parts := vs.map variableDefinition
  if anyMultiline parts then wrap "(\n" (join "\n" parts) "\n)" else wrap "(" (join ", " parts) ")"

/-- An operation; an anonymous query without variables and directives is its selections alone. -/
def operation (o : OperationDefinition) : String :=
  let head := description o.description ++
    join " " [o.kind.word, join "" [o.name.getD "", variableDefinitions o.parameters], directives o.directives]
  (if head == "query" then "" else head ++ " ") ++ selectionBlock (selections o.selections)

/-- A fragment definition. -/
def fragment (f : FragmentDefinition) : String :=
  description f.description ++ "fragment " ++ f.name ++ " on " ++ f.condition ++ " " ++
    wrap "" (directives f.directives) " " ++ selectionBlock (selections f.selections)

/-- The declaration of an argument or input field. -/
def inputValue (v : InputValueDefinition) : String :=
  description v.description ++
    join " " [v.name ++ ": " ++ typeRef v.type, fallback "= " v.fallback, directives v.directives]

/-- Declared arguments on one line, or one a line if one of them has several lines. -/
def argumentDefinitions (args : List InputValueDefinition) : String :=
  let parts := args.map inputValue
  if anyMultiline parts then wrap "(\n" (indent (join "\n" parts)) "\n)" else wrap "(" (join ", " parts) ")"

/-- The declaration of a field. -/
def fieldDefinition (f : FieldDefinition) : String :=
  description f.description ++ f.name ++ argumentDefinitions f.arguments ++ ": " ++ typeRef f.type ++
    wrap " " (directives f.directives) ""

/-- The declaration of an enum value. -/
def enumValue (v : EnumValueDefinition) : String :=
  description v.description ++ join " " [v.name, directives v.directives]

/-- A type definition after its description. -/
def typeBody (t : TypeDefinition) : String :=
  let ds := directives t.directives
  match t.shape with
  | .scalar => join " " ["scalar", t.name, ds]
  | .object is fs =>
    join " " ["type", t.name, wrap "implements " (join " & " is) "", ds, block (fs.map fieldDefinition)]
  | .interface is fs =>
    join " " ["interface", t.name, wrap "implements " (join " & " is) "", ds, block (fs.map fieldDefinition)]
  | .union ms => join " " ["union", t.name, ds, wrap "= " (join " | " ms) ""]
  | .enum vs => join " " ["enum", t.name, ds, block (vs.map enumValue)]
  | .inputObject fs => join " " ["input", t.name, ds, block (fs.map inputValue)]

/-- The root types of a schema. -/
def roots (rs : List (OperationKind × String)) : String :=
  block (rs.map fun r => r.1.word ++ ": " ++ r.2)

/-- A directive definition. -/
def directiveDefinition (d : DirectiveDefinition) : String :=
  description d.description ++ "directive @" ++ d.name ++ argumentDefinitions d.arguments ++
    wrap " " (directives d.directives) "" ++ (if d.repeatable then " repeatable" else "") ++ " on " ++
    join " | " (d.locations.map Location.word)

/-- A definition. -/
def definition : Definition → String
  | .operation o => operation o
  | .fragment f => fragment f
  | .schema s => description s.description ++ join " " ["schema", directives s.directives, roots s.roots]
  | .type t => description t.description ++ typeBody t
  | .directive d => directiveDefinition d
  | .extendSchema s => join " " ["extend schema", directives s.directives, roots s.roots]
  | .extendType t => "extend " ++ typeBody t
  | .extendDirective d => join " " ["extend directive @" ++ d.name, directives d.directives]

/-- A document. -/
def document (d : Document) : String :=
  join "\n\n" (d.map definition)

end Printer

end TypedOperations.Language
