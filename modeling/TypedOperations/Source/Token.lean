import TypedOperations.Source.Numeral
import TypedOperations.Text.Blank
import TypedOperations.Text.Identifier

/-!
# Tokens of modules

The lexical elements of the text of a module. A line of the module ends with a token of its own unless it goes on inside
brackets or after a backslash, and tokens say where the indentation of lines grows and shrinks. Brackets must match and
nest to a limit, as does the indentation.
-/

namespace TypedOperations.Source

/-- A string as it is written: what the letters in front of it ask for, and what stands between its quotes. -/
structure StringToken where
  bytes : Bool
  raw : Bool
  format : Bool
  body : List Char
deriving DecidableEq, Repr

/-- A lexical element. -/
inductive Token where
  | word (text : String)
  | number (imaginary : Bool)
  | string (s : StringToken)
  | mark (text : String)
  | newline
  | indent
  | dedent
deriving DecidableEq, Repr

/-- The deepest nesting of brackets. -/
def maxBrackets : Nat := 200

/-- The deepest nesting of indented blocks. -/
def maxIndents : Nat := 99

/-! ## Strings -/

/-- The characters of a string on one line up to its closing quote, and what follows; `body` holds those before, newest
first. -/
def shortString (quote : Char) (body : List Char) : List Char → Option (List Char × List Char)
  | [] => none
  | '\x5c' :: c :: rest => shortString quote (c :: '\x5c' :: body) rest
  | c :: rest =>
    if c == quote then some (body.reverse, rest)
    else if c == '\n' then none
    else shortString quote (c :: body) rest

/-- The characters of a string over any number of lines up to its three closing quotes, and what follows. -/
def longString (quote : Char) (body : List Char) : List Char → Option (List Char × List Char)
  | [] => none
  | '\x5c' :: c :: rest => longString quote (c :: '\x5c' :: body) rest
  | a :: b :: c :: rest =>
    if a == quote && b == quote && c == quote then some (body.reverse, rest)
    else longString quote (a :: body) (b :: c :: rest)
  | a :: rest => longString quote (a :: body) rest

/-- The characters of a string that a quote opens, and what follows. -/
def stringBody (quote : Char) : List Char → Option (List Char × List Char)
  | a :: b :: rest =>
    if a == quote && b == quote then longString quote [] rest else shortString quote [] (a :: b :: rest)
  | rest => shortString quote [] rest

/-- The character is a quote. -/
def isQuote (c : Char) : Bool := c == '\x27' || c == '\x22'

/-- The letters that may stand in front of a string, in small letters. -/
def stringLetters : List String := ["b", "r", "u", "f", "br", "rb", "fr", "rf"]

/-- The letters in front of a string, its opening quote and what follows, if a text starts with a string. -/
def stringAt? : List Char → Option (String × Char × List Char)
  | a :: rest =>
    if isQuote a then some ("", a, rest)
    else
      match rest with
      | b :: rest =>
        let one := String.ofList [a.toLower]
        if isQuote b then if stringLetters.contains one then some (one, b, rest) else none
        else
          match rest with
          | c :: rest =>
            let two := String.ofList [a.toLower, b.toLower]
            if isQuote c && stringLetters.contains two then some (two, c, rest) else none
          | [] => none
      | [] => none
  | [] => none

/-! ## Marks -/

/-- The marks of more than one character, longest first. -/
def longMarks : List String :=
  ["**=", "//=", ">>=", "<<=", "...", "!=", "%=", "&=", "**", "*=", "+=", "-=", "->", "//", "/=", ":=", "<<", "<=", "<>",
   "==", ">=", ">>", "@=", "^=", "|="]

/-- The marks of one character. -/
def shortMarks : List Char := "%&()*+,-./:;<=>@[]^\x7b|\x7d~".toList

/-- The mark that a text starts with, and what follows it. -/
def markAt? (cs : List Char) : Option (String × List Char) :=
  match longMarks.find? fun m => m.toList.isPrefixOf cs with
  | some m => some (m, cs.drop m.length)
  | none =>
    match cs with
    | c :: rest => if shortMarks.contains c then some (c.toString, rest) else none
    | [] => none

/-- The bracket that closes a bracket. -/
def closing? : String → Option String
  | "(" => some ")"
  | "[" => some "]"
  | "\x7b" => some "\x7d"
  | _ => none

/-- The mark closes a bracket. -/
def isClosing (mark : String) : Bool :=
  mark == ")" || mark == "]" || mark == "\x7d"

/-! ## Lines -/

/-- The width of the blanks before a line, twice: with tabs that go on to the next multiple of eight, and with tabs that
count once. -/
structure Width where
  wide : Nat
  narrow : Nat
deriving DecidableEq, Repr

/-- What is known between two tokens: those found so far, newest first, the brackets that are to be closed and the widths of
the blocks that are open, innermost first. -/
structure Scan where
  tokens : List Token := []
  brackets : List String := []
  widths : List Width := []

namespace Scan

/-- The scan with one more token. -/
def push (x : Scan) (t : Token) : Scan := { x with tokens := t :: x.tokens }

/-- The scan with a mark, which opens or closes a bracket if it is one. -/
def pushMark (x : Scan) (mark : String) : Option Scan :=
  match closing? mark with
  | some close =>
    if x.brackets.length < maxBrackets then some { x.push (.mark mark) with brackets := close :: x.brackets } else none
  | none =>
    if isClosing mark then
      match x.brackets with
      | b :: rest => if b == mark then some { x.push (.mark mark) with brackets := rest } else none
      | [] => none
    else some (x.push (.mark mark))

/-- The scan with the blocks closed that are wider than a line, and the width of the block that it is in. -/
def dedent (x : Scan) (w : Width) : List Width → Scan × Width
  | [] => ({ x with widths := [] }, ⟨0, 0⟩)
  | v :: rest => if w.wide < v.wide then (x.push .dedent).dedent w rest else ({ x with widths := v :: rest }, v)

/-- The scan at a line of a width: it opens a block, or closes blocks until its width is that of an open one. -/
def arrange (x : Scan) (w : Width) : Option Scan :=
  let current := x.widths.headD ⟨0, 0⟩
  if current.wide < w.wide then
    if x.widths.length < maxIndents && current.narrow < w.narrow then
      some { x.push .indent with widths := w :: x.widths }
    else none
  else
    let (x, v) := x.dedent w x.widths
    if v == w then some x else none

end Scan

/-- The width of the blanks that a line starts with, and the line after them. A backslash at the end of a line goes on with
the next one, and the first of them that is indented settles the width; a form feed starts again. -/
def measure (w : Width) (settled : Nat) : List Char → Option (Width × List Char)
  | ' ' :: rest => measure ⟨w.wide + 1, w.narrow + 1⟩ settled rest
  | '\t' :: rest => measure ⟨(w.wide / 8 + 1) * 8, w.narrow + 1⟩ settled rest
  | '\x0c' :: rest => measure ⟨0, 0⟩ settled rest
  | '\x5c' :: '\n' :: c :: rest => measure w (if settled == 0 then w.wide else settled) (c :: rest)
  | '\x5c' :: _ => none
  | rest => some (if settled == 0 then w else ⟨settled, settled⟩, rest)

/-- The text after a comment. -/
def skipComment (cs : List Char) : List Char :=
  cs.dropWhile (· != '\n')

/-- A word and what follows it; one with other than ASCII characters must be an identifier. -/
def wordAt? (cs : List Char) : Option (Token × List Char) :=
  let text := String.ofList (cs.takeWhile isWordChar)
  if text.toList.all (·.toNat < 128) || Text.isIdentifier text then some (.word text, cs.dropWhile isWordChar) else none

/-- The token that a text starts with, if it is not a mark. -/
def plainToken? (cs : List Char) : Option (Token × List Char) :=
  match stringAt? cs with
  | some (letters, quote, rest) => do
    let (body, rest) ← stringBody quote rest
    let has (c : Char) : Bool := letters.toList.contains c
    return (.string ⟨has 'b', has 'r', has 'f', body⟩, rest)
  | none =>
    match cs with
    | [] => none
    | c :: rest =>
      if c.isDigit || (c == '.' && rest.head?.any Char.isDigit) then
        (Numeral.read cs).map fun (n, rest) => (.number n.imaginary, rest)
      else if isWordChar c then wordAt? cs
      else none

mutual

/-- The tokens from the start of a line on. A line of blanks and a comment has none. -/
def scanLines : Nat → Scan → List Char → Option (List Token)
  | 0, _, _ => none
  | fuel + 1, x, cs => do
    let (w, rest) ← measure ⟨0, 0⟩ 0 cs
    match rest with
    | [] =>
      if x.brackets.isEmpty then return (x.dedent ⟨0, 0⟩ x.widths).1.tokens.reverse else none
    | c :: _ =>
      if c == '#' || c == '\n' then scanLines fuel x ((skipComment rest).drop 1)
      else if x.brackets.isEmpty then scanLine fuel (← x.arrange w) rest
      else scanLine fuel x rest

/-- The tokens from within a line on. -/
def scanLine : Nat → Scan → List Char → Option (List Token)
  | 0, _, _ => none
  | _ + 1, _, [] => none
  | fuel + 1, x, c :: rest =>
    if c == ' ' || c == '\t' || c == '\x0c' then scanLine fuel x rest
    else if c == '#' then scanLine fuel x (skipComment rest)
    else if c == '\n' then scanLines fuel (if x.brackets.isEmpty then x.push .newline else x) rest
    else if c == '\x5c' then
      match rest with
      | '\n' :: d :: more => scanLine fuel x (d :: more)
      | _ => none
    else
      match plainToken? (c :: rest) with
      | some (t, rest) => scanLine fuel (x.push t) rest
      | none =>
        if isWordChar c || isQuote c then none
        else do
          let (m, rest) ← markAt? (c :: rest)
          scanLine fuel (← x.pushMark m) rest

end

/-- The tokens of the text of a module; none if it cannot be cut into tokens. Line ends of every usual spelling count, and
the last line need not have one. -/
def tokens (text : String) : Option (List Token) :=
  let cs := Text.unifyLineEnds text.toList
  let cs := if cs.getLast? == some '\n' then cs else cs ++ ['\n']
  scanLines (2 * cs.length + 2) {} cs

end TypedOperations.Source
