/-!
# Blanks and line breaks

White space in the sense of the Unicode standard (with the four information separators), trimming at either end, and
the division of a text into lines. Texts are lists of characters here; the other modules convert at their edges.
-/

namespace TypedOperations.Text

/-- White space: the blanks, tabs and line ends, the information separators, and the Unicode spaces. -/
def isBlank (c : Char) : Bool :=
  let n := c.toNat
  (9 ≤ n && n ≤ 13) || (28 ≤ n && n ≤ 32) || n == 0x85 || n == 0xA0 || n == 0x1680 || (0x2000 ≤ n && n ≤ 0x200A) ||
    n == 0x2028 || n == 0x2029 || n == 0x202F || n == 0x205F || n == 0x3000

/-- The characters that end a line. -/
def isLineBreak (c : Char) : Bool :=
  let n := c.toNat
  (10 ≤ n && n ≤ 13) || (28 ≤ n && n ≤ 30) || n == 0x85 || n == 0x2028 || n == 0x2029

/-- The text without the blanks it starts with. -/
def trimStart (cs : List Char) : List Char :=
  cs.dropWhile isBlank

/-- The text without the blanks it ends with. -/
def trimEnd (cs : List Char) : List Char :=
  (cs.reverse.dropWhile isBlank).reverse

/-- The text without blanks at either end. -/
def trim (cs : List Char) : List Char :=
  trimEnd (trimStart cs)

/-- The lines of `line.reverse ++ cs`, where `line` holds the characters of the line being read, newest first. -/
def splitLinesFrom (line : List Char) : List Char → List (List Char)
  | [] => if line.isEmpty then [] else [line.reverse]
  | '\r' :: '\n' :: rest => line.reverse :: splitLinesFrom [] rest
  | c :: rest => if isLineBreak c then line.reverse :: splitLinesFrom [] rest else splitLinesFrom (c :: line) rest

/-- The lines of a text without their line breaks; a carriage return and a line feed count as one break, and a break at
the very end opens no further line. -/
def splitLines (cs : List Char) : List (List Char) :=
  splitLinesFrom [] cs

/-- The parts of `part.reverse ++ cs` between the characters equal to `sep`. -/
def splitOnFrom (sep : Char) (part : List Char) : List Char → List (List Char)
  | [] => [part.reverse]
  | c :: rest => if c == sep then part.reverse :: splitOnFrom sep [] rest else splitOnFrom sep (c :: part) rest

/-- The parts of a text between the characters equal to `sep`: one part more than there are such characters. -/
def splitOn (sep : Char) (cs : List Char) : List (List Char) :=
  splitOnFrom sep [] cs

/-- Line ends of every usual spelling (a carriage return, with or without a line feed) as single line feeds. -/
def unifyLineEnds : List Char → List Char
  | [] => []
  | '\r' :: '\n' :: rest => '\n' :: unifyLineEnds rest
  | c :: rest => (if c == '\r' then '\n' else c) :: unifyLineEnds rest

end TypedOperations.Text
