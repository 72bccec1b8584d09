import TypedOperations.Layout.StringLiteral
import TypedOperations.Layout.Writer
import TypedOperations.Text.Blank

/-!
# Descriptions in generated text

Descriptions become docstrings and comments. A docstring escapes backslashes and runs of three quotes and never ends in
a quote; a comment holds one line of the text with its blanks collapsed. A description of blanks only has no first line,
so it cannot become a docstring.
-/

namespace TypedOperations

/-- Backslashes doubled, and runs of three quotes escaped. -/
def escapeDocChars : List Char → List Char
  | [] => []
  | '\x22' :: '\x22' :: '\x22' :: rest => '\x5c' :: '\x22' :: '\x5c' :: '\x22' :: '\x5c' :: '\x22' :: escapeDocChars rest
  | c :: rest => if c == '\x5c' then '\x5c' :: '\x5c' :: escapeDocChars rest else c :: escapeDocChars rest

/-- The characters as they stand in a docstring: escaped, with a blank after a final quote. -/
def docChars (cs : List Char) : List Char :=
  let escaped := escapeDocChars cs
  if escaped.getLast? == some '\x22' then escaped ++ [' '] else escaped

/-- The text as it stands in a docstring. -/
def docText (s : String) : String :=
  String.ofList (docChars s.toList)

/-- Every run of blanks as one space. -/
def collapseBlanks (inBlank : Bool) : List Char → List Char
  | [] => []
  | c :: rest =>
    if Text.isBlank c then (if inBlank then collapseBlanks true rest else ' ' :: collapseBlanks true rest)
    else c :: collapseBlanks false rest

/-- The characters as they stand in a comment: carriage returns left out, blanks collapsed and trimmed. -/
def commentChars (cs : List Char) : List Char :=
  Text.trim (collapseBlanks false (cs.filter (· != '\r')))

/-- The text as it stands in a comment. -/
def commentText (s : String) : String :=
  String.ofList (commentChars s.toList)

/-- The lines of a docstring, of which there is at least one. -/
structure Docstring where
  first : String
  rest : List String
deriving DecidableEq, Repr

namespace Docstring

/-- The docstring of a text; none if the text is blank. -/
def ofText? (text : String) : Option Docstring :=
  match (Text.splitLines (docChars (Text.trim text.toList))).map String.ofList with
  | [] => none
  | first :: rest => some ⟨first, rest⟩

/-- A description that is there but blank. -/
structure Blank where
deriving DecidableEq, Repr

/-- The docstring of a description, if there is a description and it is not empty. -/
def ofDescription (description : Option String) : Except Blank (Option Docstring) :=
  match description with
  | none => .ok none
  | some text =>
    if text == "" then .ok none
    else
      match ofText? text with
      | some d => .ok (some d)
      | none => .error ⟨⟩

end Docstring

namespace Writer

/-- A line of a docstring after the first: trimmed at its end, or nothing but a line end if it is blank. -/
def docLine (w : Writer) (text : String) : Writer :=
  let trimmed := String.ofList (Text.trimEnd text.toList)
  if trimmed == "" then w.push "\n" else w.line trimmed

/-- A docstring: on one line if it has one, otherwise with its closing quotes on a line of their own. -/
def docstring (w : Writer) (d : Docstring) : Writer :=
  if d.rest.isEmpty then w.line ("\"\"\"" ++ d.first ++ "\"\"\"")
  else (d.rest.foldl docLine (w.line ("\"\"\"" ++ d.first))).line "\"\"\""

/-- A docstring where there is one. -/
def docstring? (w : Writer) (d : Option Docstring) : Writer :=
  match d with
  | some d => w.docstring d
  | none => w

/-- One comment line for every line of the text. -/
def comment (w : Writer) (text : String) : Writer :=
  w.lines ((Text.splitLines (Text.trim text.toList)).map fun l =>
    let l := commentChars l
    if l.isEmpty then "#" else String.ofList ('#' :: ' ' :: l))

/-- One comment where there is one. -/
def comment? (w : Writer) (text : Option String) : Writer :=
  match text with
  | some text => w.comment text
  | none => w

/-- One string literal for every line of the text; every line but the last keeps its line feed. -/
def sourceLines (w : Writer) (text : String) : Writer :=
  let rec go : List (List Char) → List String
    | [] => []
    | [l] => [stringLiteral (String.ofList l)]
    | l :: rest => stringLiteral (String.ofList (l ++ ['\n'])) :: go rest
  w.lines (go (Text.splitOn '\n' text.toList))

/-- A class is opened: its header, after a gap, and its docstring. -/
def openClass (w : Writer) (name : String) (bases : List String) : Writer :=
  w.separate.openBlock (classHeader name bases)

/-- A class with its docstring and body. -/
def declaration (w : Writer) (name : String) (bases : List String) (doc : Option Docstring) (body : Writer → Writer) :
    Writer :=
  let opened := w.openClass name bases
  (body (opened.docstring? doc)).closeBlock opened.size

/-- The reading half of a property, with its docstring and body. -/
def getter (w : Writer) (name type : String) (doc : Option Docstring) (body : Writer → Writer) : Writer :=
  let opened := w.openGetter name type
  (body (opened.docstring? doc)).closeBlock opened.size

/-- The writing half of a property with its body. -/
def setter (w : Writer) (name type : String) (body : Writer → Writer) : Writer :=
  let opened := w.openSetter name type
  (body opened).closeBlock opened.size

end Writer

end TypedOperations
