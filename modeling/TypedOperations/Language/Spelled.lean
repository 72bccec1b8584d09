import TypedOperations.Language.Parser

/-!
# Constants spelled by their characters

A constant that is given as a list of texts, each of which counts as a character. It is read like the text that the
characters form, but its words and its numeral stay lists, so that they are values of no type. Strings, signs, points and
zero cannot be read from a list, and a numeral cannot be told from what follows it.
-/

namespace TypedOperations.Language

mutual

/-- The literal has words only, no strings or numerals. -/
def Literal.isWordy : Literal → Bool
  | .bool _ => true
  | .null => true
  | .enum _ => true
  | .list items => areWordy items
  | .object fields => areFieldsWordy fields
  | _ => false

/-- The literals have words only. -/
def areWordy : List Literal → Bool
  | [] => true
  | v :: rest => v.isWordy && areWordy rest

/-- The fields hold words only. -/
def areFieldsWordy : List (String × Literal) → Bool
  | [] => true
  | (_, v) :: rest => v.isWordy && areFieldsWordy rest

end

mutual

/-- The literal with every word, those of fields included, made a word that names nothing. -/
def Literal.unnamed : Literal → Literal
  | .list items => .list (unnamedItems items)
  | .object fields => .object (unnamedFields fields)
  | _ => .enum ""

/-- The literals with every word made one that names nothing. -/
def unnamedItems : List Literal → List Literal
  | [] => []
  | v :: rest => v.unnamed :: unnamedItems rest

/-- The fields with every word made one that names nothing. -/
def unnamedFields : List (String × Literal) → List (String × Literal)
  | [] => []
  | (_, v) :: rest => ("", v.unnamed) :: unnamedFields rest

end

/-- The character that a text counts as where constants are spelled: itself, a blank for blanks, and a digit or letter for
a longer text that stands between two digits or two letters in alphabetical order. -/
def standIn? (text : String) : Option Char :=
  match text.toList with
  | [] => some ' '
  | [c] => some c
  | c :: rest =>
    if [[' ', '\t'], ['\t', ','], [',', '\uFEFF'], [' ', '\t', ','], ['\t', ',', '\uFEFF'],
        [' ', '\t', ',', '\uFEFF']].contains (c :: rest) then some ' '
    else if '0' ≤ c && c < '9' then some '1'
    else if ('a' ≤ c && c < 'z') || ('A' ≤ c && c < 'Z') then some 'b'
    else none

/-- The constant that texts spell, if it can be read from a list. -/
def spelledConstant? (texts : List String) : Option Literal := do
  let cs ← texts.mapM standIn?
  match parseValue (String.ofList cs) with
  | .ok (.int digits) =>
    if digits.toList.all Char.isDigit && digits != "0" && cs.dropWhile isIgnored == digits.toList then some (.enum "")
    else none
  | .ok v => if v.isWordy then some v.unnamed else none
  | .error _ => none

end TypedOperations.Language
