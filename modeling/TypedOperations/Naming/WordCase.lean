import TypedOperations.Text.Blank
import TypedOperations.Text.Identifier

/-!
# Word case

Names written in words: snake case separates the words of a mixed-case name by underscores, Pascal case joins them with
capitals, constant case is snake case in capitals. Words are found in two passes, first before a capital that starts a
lower-case word, then between a small letter or digit and a capital.
-/

namespace TypedOperations.Naming

/-- An underscore before every capital that is followed by a small letter and preceded by any character but a line feed.
A word found this way is copied to its end (`copying`) before the next one is looked for. -/
def markWords (copying : Bool) : List Char → List Char
  | [] => []
  | c :: rest =>
    if copying && c.isLower then c :: markWords true rest
    else
      match rest with
      | u :: l :: rest' =>
        if c != '\n' && u.isUpper && l.isLower then c :: '_' :: u :: l :: markWords true rest'
        else c :: markWords false (u :: l :: rest')
      | [u] => c :: markWords false [u]
      | [] => [c]

/-- An underscore between every small letter or digit and a capital that follows it. -/
def markHumps : List Char → List Char
  | [] => []
  | [c] => [c]
  | a :: b :: rest =>
    if (a.isLower || a.isDigit) && b.isUpper then a :: '_' :: markHumps (b :: rest) else a :: markHumps (b :: rest)

/-- Snake case of a text. -/
def snakeChars (cs : List Char) : List Char :=
  Text.lower (markHumps (markWords false cs))

/-- The word with its first character in upper case. -/
def capitalize : List Char → List Char
  | [] => []
  | c :: rest => Text.upperChar c ++ rest

/-- The words of the snake case, capitalized and joined. -/
def pascalChars (cs : List Char) : List Char :=
  (Text.splitOn '_' (snakeChars cs)).flatMap capitalize

/-- The name in small letters, words separated by underscores. -/
def snakeCase (name : String) : String :=
  String.ofList (snakeChars name.toList)

/-- The name with its words capitalized and joined. -/
def pascalCase (name : String) : String :=
  String.ofList (pascalChars name.toList)

/-- The name in capitals, words separated by underscores. -/
def upperCase (name : String) : String :=
  String.ofList (Text.upper (snakeChars name.toList))

/-- The name, with an underscore after it if it is a reserved word. -/
def avoidReserved (name : String) : String :=
  if Text.isReserved name then name ++ "_" else name

end TypedOperations.Naming
