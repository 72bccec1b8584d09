/-!
# Writing indented text

A writer holds the text written so far and where the next line goes. Lines are started with `line`; `add` extends the
current line. A blank line is requested with `separate` and appears only when the next line is written, so that two
requests leave one gap: of two lines at the outermost level, of one line inside a block, and of none right after a block
was opened.
-/

namespace TypedOperations

/-- The state of a text under construction. -/
structure Writer where
  /-- The pieces written, newest first. -/
  pieces : List String := []
  level : Nat := 0
  /-- Nothing was written since the current level was entered. -/
  atLevelStart : Bool := true
  /-- The blank lines owed before the next line. -/
  owed : Nat := 0
deriving DecidableEq, Repr, Inhabited

namespace Writer

/-- The indentation of one level. -/
def indentUnit : String := "    "

/-- The longest line that is not broken up. -/
def maxLineLength : Nat := 100

/-- The text repeated `n` times. -/
def repeated (s : String) : Nat → String
  | 0 => ""
  | n + 1 => repeated s n ++ s

/-- The number of pieces written. -/
def size (w : Writer) : Nat := w.pieces.length

/-- The pieces as one text. -/
def body (w : Writer) : String := String.join w.pieces.reverse

/-- The finished text: what was written, closed by a line end unless it is empty. -/
def output (w : Writer) : String :=
  let text := w.body
  if text == "" then text else text ++ "\n"

/-- A piece after the others. -/
def push (w : Writer) (piece : String) : Writer :=
  { w with pieces := piece :: w.pieces }

/-- The text added to the current line; an empty text changes nothing. -/
def add (w : Writer) (text : String) : Writer :=
  if text == "" then w else { w.push text with atLevelStart := false }

/-- A new line at the current level, after the blank lines owed; an empty text changes nothing. -/
def line (w : Writer) (text : String) : Writer :=
  if text == "" then w
  else
    let w' := if w.pieces.isEmpty then w else w.push (repeated "\n" (1 + w.owed))
    { w'.push (repeated indentUnit w.level ++ text) with owed := 0, atLevelStart := false }

/-- The lines one after another. -/
def lines (w : Writer) (texts : List String) : Writer :=
  texts.foldl line w

/-- A request for a gap before the next line, which a line at the start of a level ignores. -/
def separate (w : Writer) : Writer :=
  if w.atLevelStart then w else { w with owed := max w.owed (if w.level == 0 then 2 else 1) }

/-- One level deeper. -/
def indent (w : Writer) : Writer :=
  { w with level := w.level + 1, atLevelStart := true }

/-- One level up. -/
def dedent (w : Writer) : Writer :=
  { w with level := w.level - 1 }

/-- The text written by `body` one level deeper. -/
def indented (w : Writer) (body : Writer → Writer) : Writer :=
  (body w.indent).dedent

/-- The header of a block is written and its body begins. -/
def openBlock (w : Writer) (header : String) : Writer :=
  (w.line (header ++ ":")).indent

/-- The block whose body began at size `start` ends; an empty body becomes `pass`. -/
def closeBlock (w : Writer) (start : Nat) : Writer :=
  (if w.size == start then w.line "pass" else w).dedent

/-- A block: its header, and its body one level deeper. -/
def block (w : Writer) (header : String) (body : Writer → Writer) : Writer :=
  let opened := w.openBlock header
  (body opened).closeBlock opened.size

/-- The line fits the current level. -/
def fits (w : Writer) (text : String) : Bool :=
  indentUnit.length * w.level + text.length ≤ maxLineLength

/-- Items between an opening and a closing text, on one line if it fits, otherwise one item a line, each with a comma. -/
def wrapped (w : Writer) (opening : String) (items : List String) (closing : String) : Writer :=
  let text := opening ++ String.intercalate ", " items ++ closing
  if items.isEmpty || w.fits text then w.line text
  else
    let w := (w.line opening).indented fun w => w.lines (items.map (· ++ ","))
    w.line closing

/-- The header of a class. -/
def classHeader (name : String) (bases : List String) : String :=
  if bases.isEmpty then "class " ++ name else "class " ++ name ++ "(" ++ String.intercalate ", " bases ++ ")"

/-- The part of a signature after its parameters. -/
def signatureEnd (returns : Option String) : String :=
  match returns with
  | some r => if r == "" then ")" else ") -> " ++ r
  | none => ")"

/-- A method is opened: its decorators, and its signature, one parameter a line if it is too long. -/
def openMethod (w : Writer) (name : String) (params : List String) (returns : Option String) (decorators : List String) :
    Writer :=
  let w := w.separate.lines (decorators.map ("@" ++ ·))
  let closing := signatureEnd returns
  let signature := "def " ++ name ++ "(" ++ String.intercalate ", " params ++ closing
  if w.fits (signature ++ ":") then w.openBlock signature
  else
    let w := (w.line ("def " ++ name ++ "(")).indented fun w => w.lines (params.map (· ++ ","))
    w.openBlock closing

/-- A method with its body. -/
def method (w : Writer) (name : String) (params : List String) (returns : Option String) (decorators : List String)
    (body : Writer → Writer) : Writer :=
  let opened := w.openMethod name params returns decorators
  (body opened).closeBlock opened.size

/-- The reading half of a property is opened. -/
def openGetter (w : Writer) (name type : String) : Writer :=
  w.openMethod name ["self"] (some type) ["property"]

/-- The writing half of a property is opened; its value is `new_value`. -/
def openSetter (w : Writer) (name type : String) : Writer :=
  w.openMethod name ["self", "new_value: " ++ type] (some "None") [name ++ ".setter"]

end Writer

end TypedOperations
