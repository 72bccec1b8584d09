/-!
# String literals

A text as a double-quoted literal of the generated module: the backslash, the quote, the line feed, the carriage return
and the tab are escaped, everything else stands for itself.
-/

namespace TypedOperations

/-- One character of a string literal. -/
def literalChar (c : Char) : List Char :=
  if c == '\x5c' then ['\x5c', '\x5c']
  else if c == '\x22' then ['\x5c', '\x22']
  else if c == '\n' then ['\x5c', 'n']
  else if c == '\r' then ['\x5c', 'r']
  else if c == '\t' then ['\x5c', 't']
  else [c]

/-- The characters of a string literal, its quotes included. -/
def literalChars (cs : List Char) : List Char :=
  '\x22' :: (cs.flatMap literalChar ++ ['\x22'])

/-- The text as a string literal. -/
def stringLiteral (s : String) : String :=
  String.ofList (literalChars s.toList)

end TypedOperations
