import TypedOperations.Text.Identifier.Table
import TypedOperations.Text.LetterCase

/-!
# Identifiers

The names the generated modules may declare: identifiers of the target language that are not among its reserved words.
-/

namespace TypedOperations.Text

/-- The character may start an identifier. -/
def isIdentifierStart (c : Char) : Bool :=
  inRanges identifierStartRanges c.toNat

/-- The character may stand in an identifier after its first character. -/
def isIdentifierContinue (c : Char) : Bool :=
  inRanges identifierContinueRanges c.toNat

/-- The text is an identifier: not empty, with a start character first and continuing characters after it. -/
def isIdentifier (s : String) : Bool :=
  match s.toList with
  | [] => false
  | c :: rest => isIdentifierStart c && rest.all isIdentifierContinue

/-- The reserved words of the target language. -/
def reservedWords : List String :=
  ["False", "None", "True", "and", "as", "assert", "async", "await", "break", "class", "continue", "def", "del", "elif",
   "else", "except", "finally", "for", "from", "global", "if", "import", "in", "is", "lambda", "nonlocal", "not", "or",
   "pass", "raise", "return", "try", "while", "with", "yield"]

/-- The text is a reserved word. -/
def isReserved (s : String) : Bool :=
  reservedWords.contains s

/-- The text can name a class, a method or a parameter. -/
def isDeclarable (s : String) : Bool :=
  isIdentifier s && !isReserved s

end TypedOperations.Text
