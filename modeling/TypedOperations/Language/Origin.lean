import TypedOperations.Language.Token
import TypedOperations.Text.Blank

/-!
# Places in texts

Where a token stands in the text that a document was read from, and how that place is shown: the line with a caret below the
column, between the lines around it. A long line is shown in pieces.
-/

namespace TypedOperations.Language

/-- A text that a document is read from, and what it is called. -/
structure Origin where
  name : String
  text : String

/-- A place in a text; lines and columns count from one. -/
structure Position where
  line : Nat
  column : Nat
deriving DecidableEq, Repr

namespace Origin

/-- The origin of a text that is in no file. -/
def request (text : String) : Origin := ⟨"GraphQL request", text⟩

/-- What is left of a text from each of its tokens on, the last token first, after those in `found`. -/
def suffixesFrom (found : List (List Char)) : Nat → List Char → List (List Char)
  | 0, _ => found
  | _ + 1, [] => found
  | fuel + 1, c :: rest =>
    if isIgnored c then suffixesFrom found fuel rest
    else if c == '#' then suffixesFrom found fuel (rest.dropWhile isCommentChar)
    else
      match readToken (c :: rest) with
      | .ok (_, after) => suffixesFrom ((c :: rest) :: found) fuel after
      | .error _ => found

/-- The lines of a text; a line feed, a carriage return or both in this order end a line. -/
def linesOf (cs : List Char) : List (List Char) :=
  Text.splitOn '\n' (Text.unifyLineEnds cs)

/-- The place that so many characters are before. -/
def positionAfter (o : Origin) (count : Nat) : Position :=
  let before := linesOf (o.text.toList.take count)
  ⟨before.length, (before.getLast?.getD []).length + 1⟩

/-- The place of the token that starts the last `tokensLeft` tokens of the text. -/
def position (o : Origin) (tokensLeft : Nat) : Position :=
  let cs := o.text.toList
  let suffix := (suffixesFrom [] (cs.length + 1) cs).getD (tokensLeft - 1) []
  o.positionAfter (cs.length - suffix.length)

/-- The text with blanks in front, so that it is at least so wide. -/
def alignRight (width : Nat) (s : String) : String :=
  "".pushn ' ' (width - s.length) ++ s

/-- Lines with what stands before each of them, aligned; lines that are not there are left out. -/
def ruled (rows : List (String × Option String)) : String :=
  let rows := rows.filterMap fun r => r.2.map fun line => (r.1, line)
  let width := (rows.map (·.1.length)).max?.getD 0
  String.intercalate "\n" (rows.map fun r => alignRight width r.1 ++ (if r.2.isEmpty then "" else " " ++ r.2))

/-- The longest line that is shown as one. -/
def maxShown : Nat := 120

/-- The length of the pieces of a longer line. -/
def pieceLength : Nat := 80

/-- The pieces of a line; `fuel` bounds their number. -/
def pieces : Nat → List Char → List (List Char)
  | 0, _ => []
  | _ + 1, [] => []
  | fuel + 1, c :: rest => (c :: rest).take pieceLength :: pieces fuel ((c :: rest).drop pieceLength)

/-- A line in pieces, with a caret below a column of it; the column after the line belongs to the last piece. -/
def longExcerpt (p : Position) (line : List Char) : String :=
  let parts := (pieces (line.length + 1) line).map String.ofList
  let index := min ((p.column - 1) / pieceLength) (parts.length - 1)
  ruled ([(toString p.line ++ " |", parts[0]?)] ++ ((parts.drop 1).take index).map (fun part => ("|", some part)) ++
    [("|", some (alignRight (p.column - index * pieceLength) "^")), ("|", parts[index + 1]?)])

/-- A line between the lines around it, with a caret below a column of it. -/
def shortExcerpt (p : Position) (lines : List (List Char)) : String :=
  let shown (index : Nat) : Option String := lines[index]?.map String.ofList
  ruled [(toString (p.line - 1) ++ " |", if 1 < p.line then shown (p.line - 2) else none),
    (toString p.line ++ " |", shown (p.line - 1)), ("|", some (alignRight p.column "^")),
    (toString (p.line + 1) ++ " |", shown p.line)]

/-- The place as it is shown, with its line, and what the text is called. -/
def excerpt (o : Origin) (p : Position) : String :=
  let lines := linesOf o.text.toList
  let line := lines.getD (p.line - 1) []
  o.name ++ ":" ++ toString p.line ++ ":" ++ toString p.column ++ "\n" ++
    (if maxShown < line.length then longExcerpt p line else shortExcerpt p lines)

end Origin

end TypedOperations.Language
