import TypedOperations.Entries
import TypedOperations.Text.Blank
import TypedOperations.Text.Quoted

/-!
# Header templates

The header of a module is made from a template: text with places for values, parts that depend on a value, and parts that
are repeated for every item of a list. A tag on a line of its own leaves nothing of that line: the blanks before it and
the line end after it belong to the tag.
-/

namespace TypedOperations

/-- A value that a template can refer to. -/
inductive TemplateValue where
  | text (value : String)
  | items (values : List String)
deriving DecidableEq, Repr, Inhabited

namespace TemplateValue

/-- The value as it is written. -/
def written : TemplateValue → String
  | .text value => value
  | .items values => "[" ++ String.intercalate ", " (values.map Text.quoted) ++ "]"

/-- The value is not empty. -/
def holds : TemplateValue → Bool
  | .text value => value != ""
  | .items values => !values.isEmpty

/-- What a repeated part runs through. -/
def elements : TemplateValue → List String
  | .text value => value.toList.map String.singleton
  | .items values => values

end TemplateValue

/-- A part of a template. -/
inductive TemplatePart where
  | text (s : String)
  /-- The value of a name; nothing if there is none. -/
  | value (name : String)
  /-- A part that appears if a value is not empty, and what appears otherwise. -/
  | conditional (name : String) (body alternative : List TemplatePart)
  /-- A part that is repeated for every element of a value. -/
  | repeated (item source : String) (body : List TemplatePart)
deriving Inhabited

/-- A template. -/
abbrev Template := List TemplatePart

namespace TemplatePart

mutual

/-- The text of a part. -/
def render (env : Entries TemplateValue) : TemplatePart → String
  | .text s => s
  | .value name => (env.get? name).elim "" (·.written)
  | .conditional name body alternative =>
    if (env.get? name).elim false (·.holds) then renderAll env body else renderAll env alternative
  | .repeated item source body =>
    String.join (((env.get? source).elim [] (·.elements)).map fun x => renderAll (env.put item (.text x)) body)

/-- The text of parts. -/
def renderAll (env : Entries TemplateValue) : List TemplatePart → String
  | [] => ""
  | p :: rest => p.render env ++ renderAll env rest

end

end TemplatePart

/-- The text of a template. -/
def Template.render (t : Template) (env : Entries TemplateValue) : String :=
  TemplatePart.renderAll env t

namespace Template

/-! ## Reading templates -/

/-- A piece of the text of a template. -/
inductive Piece where
  | text (cs : List Char)
  | value (words : List (List Char))
  | tag (words : List (List Char))
  | remark
deriving DecidableEq, Repr

/-- The text up to two closing characters, and what follows them. -/
def upTo (a b : Char) : List Char → Option (List Char × List Char)
  | [] => none
  | c :: rest =>
    match rest with
    | d :: rest' =>
      if c == a && d == b then some ([], rest')
      else (upTo a b rest).map fun (inside, after) => (c :: inside, after)
    | [] => none

/-- The words of a tag. -/
def wordsOf (cs : List Char) : List (List Char) :=
  go [] cs
where
  /-- The words, the first of which starts with the reverse of `word`. -/
  go (word : List Char) : List Char → List (List Char)
    | [] => if word.isEmpty then [] else [word.reverse]
    | c :: rest =>
      if Text.isBlank c then (if word.isEmpty then go [] rest else word.reverse :: go [] rest) else go (c :: word) rest

/-- The text before a tag, reversed, without the blanks that only the start of its line or of the template precedes. -/
def stripLine (reversed : List Char) (atStart : Bool) : List Char :=
  match reversed.dropWhile fun c => c == ' ' || c == '\t' with
  | [] => if atStart then [] else reversed
  | c :: rest => if c == '\n' then c :: rest else reversed

/-- What follows a tag, without a line end. -/
def dropLineEnd : List Char → List Char
  | '\n' :: rest => rest
  | cs => cs

/-- The pieces of a template. `text` is the reverse of the text since the last piece, and `atStart` says that the start of a
line precedes it. -/
def pieces : Nat → List Char → Bool → List Char → Option (List Piece)
  | 0, _, _, _ => none
  | _ + 1, text, _, [] => some [.text text.reverse]
  | fuel + 1, text, _, '\x7b' :: '\x7b' :: rest => do
    let (inside, after) ← upTo '\x7d' '\x7d' rest
    return .text text.reverse :: .value (wordsOf inside) :: (← pieces fuel [] false after)
  | fuel + 1, text, atStart, '\x7b' :: '%' :: rest => do
    let (inside, after) ← upTo '%' '\x7d' rest
    let before := (stripLine text atStart).reverse
    let trimmed := dropLineEnd after
    return .text before :: .tag (wordsOf inside) :: (← pieces fuel [] (trimmed.length != after.length) trimmed)
  | fuel + 1, text, atStart, '\x7b' :: '#' :: rest => do
    let (_, after) ← upTo '#' '\x7d' rest
    let before := (stripLine text atStart).reverse
    let trimmed := dropLineEnd after
    return .text before :: .remark :: (← pieces fuel [] (trimmed.length != after.length) trimmed)
  | fuel + 1, text, atStart, c :: rest => pieces fuel (c :: text) atStart rest

/-- The text without one line end after its last line. -/
def dropFinalLineEnd (cs : List Char) : List Char :=
  if cs.getLast? == some '\n' then cs.dropLast else cs

/-- A part that was opened and not closed yet, with the parts around it, newest first. -/
inductive Frame where
  | conditional (name : String) (before : List TemplatePart)
  | alternative (name : String) (body before : List TemplatePart)
  | repeated (item source : String) (before : List TemplatePart)

/-- The parts read so far, newest first, inside the parts that are open, innermost first. -/
structure Reading where
  parts : List TemplatePart := []
  frames : List Frame := []

/-- The parts after one more piece. -/
def Reading.add (r : Reading) : Piece → Option Reading
  | .remark => some r
  | .text cs => some (if cs.isEmpty then r else { r with parts := .text (String.ofList cs) :: r.parts })
  | .value words =>
    match words.map String.ofList with
    | [name] => some { r with parts := .value name :: r.parts }
    | _ => none
  | .tag words =>
    match words.map String.ofList, r.frames with
    | ["if", name], frames => some ⟨[], .conditional name r.parts :: frames⟩
    | ["for", item, "in", source], frames => some ⟨[], .repeated item source r.parts :: frames⟩
    | ["else"], .conditional name before :: frames => some ⟨[], .alternative name r.parts.reverse before :: frames⟩
    | ["endif"], .conditional name before :: frames => some ⟨.conditional name r.parts.reverse [] :: before, frames⟩
    | ["endif"], .alternative name body before :: frames => some ⟨.conditional name body r.parts.reverse :: before, frames⟩
    | ["endfor"], .repeated item source before :: frames => some ⟨.repeated item source r.parts.reverse :: before, frames⟩
    | _, _ => none

/-- The template that a text describes, if its tags match. -/
def ofText? (text : String) : Option Template := do
  let cs := dropFinalLineEnd (Text.unifyLineEnds text.toList)
  let ps ← pieces (cs.length + 1) [] true cs
  let r ← ps.foldlM Reading.add {}
  if r.frames.isEmpty then some r.parts.reverse else none

/-! ## The standard header -/

/-- What every module imports from the module that its base classes are in. -/
def imported : List String :=
  ["GraphQLBooleanCondition", "GraphQLField", "GraphQLFragment", "GraphQLFragmentSpread", "GraphQLID", "GraphQLMap",
   "GraphQLMapConvertible", "GraphQLMutation", "GraphQLQuery", "GraphQLSelection", "GraphQLSelectionSet", "GraphQLVariable",
   "OutputType", "Snapshot", "SnapshotContainer"]

/-- The header of modules that have no header of their own. -/
def standard : Template :=
  [.text ("#  This file was automatically generated and should not be edited.\n\nfrom __future__ import annotations\n\n" ++
     "from enum import Enum\nfrom typing import Any, List, Optional, cast\n\nfrom "),
   .value "runtime_module",
   .text (" import (\n" ++ String.join (imported.map fun n => "    " ++ n ++ ",\n") ++ ")\n"),
   .conditional "custom_scalars"
     [.text "\n# Custom scalars pass through as their wire value\n",
      .repeated "scalar" "custom_scalars" [.value "scalar", .text " = Any\n"]] []]

end Template

end TypedOperations
