import TypedOperations.Json.Reader

/-!
# Tokens

The lexical elements of a document. White space, commas, byte order marks and comments separate tokens and are dropped.
A block string is stripped of its common indentation and of blank lines at either end.
-/

namespace TypedOperations.Language

/-- Why a text is not a document. -/
inductive SyntaxError where
  | unexpectedCharacter
  | unterminatedString
  | invalidEscape
  | invalidNumber
  | unexpectedToken
deriving DecidableEq, Repr, Inhabited

/-- A lexical element. -/
inductive Token where
  | mark (c : Char)
  | spread
  | name (name : String)
  | int (digits : String)
  | float (digits : String)
  | string (value : String)
  | block (value : String)
deriving DecidableEq, Repr, Inhabited

/-- The characters that are tokens of their own. -/
def marks : List Char :=
  ['!', '$', '&', '(', ')', ':', '=', '@', '[', ']', '\x7b', '|', '\x7d']

/-- The character may start a name. -/
def isNameStart (c : Char) : Bool :=
  c.isAlpha || c == '_'

/-- The character may continue a name. -/
def isNameContinue (c : Char) : Bool :=
  c.isAlphanum || c == '_'

/-- The text is a name. -/
def isName (s : String) : Bool :=
  match s.toList with
  | [] => false
  | c :: rest => isNameStart c && rest.all isNameContinue

/-- The code point is a character and not half of a surrogate pair. -/
def isScalarValue (n : Nat) : Bool :=
  n ≤ 0xD7FF || (0xE000 ≤ n && n ≤ 0x10FFFF)

/-- A code point in braces: at most eight hexadecimal digits and the closing brace. -/
def readCodePoint (digits : Nat) (point : Nat) : Nat → List Char → Except SyntaxError (Char × List Char)
  | 0, _ => .error .invalidEscape
  | _ + 1, [] => .error .invalidEscape
  | fuel + 1, c :: rest =>
    if c == '\x7d' then
      if digits == 0 || !isScalarValue point then .error .invalidEscape else .ok (Char.ofNat point, rest)
    else
      match Json.hexValue? c with
      | some d => readCodePoint (digits + 1) (point * 16 + d) fuel rest
      | none => .error .invalidEscape

/-- Four hexadecimal digits, or eight in two escapes that form a surrogate pair. -/
def readUnits (cs : List Char) : Except SyntaxError (Char × List Char) :=
  match Json.hexQuad? cs with
  | none => .error .invalidEscape
  | some (unit, rest) =>
    if isScalarValue unit then .ok (Char.ofNat unit, rest)
    else if 0xD800 ≤ unit && unit ≤ 0xDBFF then
      match rest with
      | '\x5c' :: 'u' :: more =>
        match Json.hexQuad? more with
        | some (low, more) =>
          if 0xDC00 ≤ low && low ≤ 0xDFFF then
            .ok (Char.ofNat (0x10000 + (unit - 0xD800) * 0x400 + (low - 0xDC00)), more)
          else .error .invalidEscape
        | none => .error .invalidEscape
      | _ => .error .invalidEscape
    else .error .invalidEscape

/-- The character that the text after a backslash stands for. -/
def readEscape : List Char → Except SyntaxError (Char × List Char)
  | [] => .error .invalidEscape
  | 'u' :: '\x7b' :: rest => readCodePoint 0 0 9 rest
  | 'u' :: rest => readUnits rest
  | c :: rest =>
    match Json.escapeChar? c with
    | some x => .ok (x, rest)
    | none => .error .invalidEscape

/-- The rest of a string, whose characters so far are `acc`, newest first. -/
def readString (acc : List Char) : Nat → List Char → Except SyntaxError (Token × List Char)
  | 0, _ => .error .unterminatedString
  | _ + 1, [] => .error .unterminatedString
  | fuel + 1, c :: rest =>
    if c == '\x22' then .ok (.string (String.ofList acc.reverse), rest)
    else if c == '\n' || c == '\r' then .error .unterminatedString
    else if c == '\x5c' then
      match readEscape rest with
      | .ok (x, rest) => readString (x :: acc) fuel rest
      | .error e => .error e
    else readString (c :: acc) fuel rest

/-- A space or a tab. -/
def isIndent (c : Char) : Bool := c == ' ' || c == '\t'

/-- The indentation of a line; none if the line is blank. -/
def indentOf? (line : List Char) : Option Nat :=
  let n := (line.takeWhile isIndent).length
  if n == line.length then none else some n

/-- The least indentation of the lines that are not blank. -/
def commonIndent (lines : List (List Char)) : Nat :=
  ((lines.filterMap indentOf?).min?).getD 0

/-- The lines without blank ones at the front. -/
def dropBlankLines (lines : List (List Char)) : List (List Char) :=
  lines.dropWhile fun l => (indentOf? l).isNone

/-- The lines of a block string without their common indentation (the first line has none) and without blank lines at
either end. -/
def dedentLines : List (List Char) → List (List Char)
  | [] => []
  | first :: rest =>
    let n := commonIndent rest
    let lines := first :: rest.map (·.drop n)
    (dropBlankLines (dropBlankLines lines).reverse).reverse

/-- The lines joined by line feeds. -/
def joinLines (lines : List (List Char)) : List Char :=
  List.intercalate ['\n'] lines

/-- The rest of a block string: `line` holds the characters of the current line and `lines` the lines before it, both
newest first. -/
def readBlock (lines : List (List Char)) (line : List Char) : List Char → Except SyntaxError (Token × List Char)
  | [] => .error .unterminatedString
  | '\x22' :: '\x22' :: '\x22' :: rest =>
    .ok (.block (String.ofList (joinLines (dedentLines (line.reverse :: lines).reverse))), rest)
  | '\x5c' :: '\x22' :: '\x22' :: '\x22' :: rest => readBlock lines ('\x22' :: '\x22' :: '\x22' :: line) rest
  | '\r' :: '\n' :: rest => readBlock (line.reverse :: lines) [] rest
  | c :: rest =>
    if c == '\n' || c == '\r' then readBlock (line.reverse :: lines) [] rest
    else readBlock lines (c :: line) rest

/-- The digits of a numeral, at least one. -/
def readDigits (cs : List Char) : Except SyntaxError (List Char × List Char) :=
  match Decimal.spanDigits cs with
  | ([], _) => .error .invalidNumber
  | spanned => .ok spanned

/-- The whole part of a numeral: a zero alone or digits that do not start with zero. -/
def readWhole : List Char → Except SyntaxError (List Char × List Char)
  | '0' :: rest =>
    match rest with
    | c :: _ => if c.isDigit then .error .invalidNumber else .ok (['0'], rest)
    | [] => .ok (['0'], [])
  | cs => readDigits cs

/-- The fraction of a numeral with its point, empty if there is none. -/
def readFraction : List Char → Except SyntaxError (List Char × List Char)
  | '.' :: rest => (readDigits rest).map fun (ds, rest) => ('.' :: ds, rest)
  | cs => .ok ([], cs)

/-- The exponent of a numeral with its letter and sign, empty if there is none. -/
def readExponent (cs : List Char) : Except SyntaxError (List Char × List Char) :=
  match cs with
  | [] => .ok ([], [])
  | e :: rest =>
    if e == 'e' || e == 'E' then
      let (sign, rest) := match rest with
        | '+' :: rest => (['+'], rest)
        | '-' :: rest => (['-'], rest)
        | rest => ([], rest)
      (readDigits rest).map fun (ds, rest) => (e :: sign ++ ds, rest)
    else .ok ([], cs)

/-- A numeral, which no letter, underscore or point may follow. -/
def readNumber (cs : List Char) : Except SyntaxError (Token × List Char) := do
  let (sign, cs) := match cs with
    | '-' :: rest => (['-'], rest)
    | rest => ([], rest)
  let (whole, rest) ← readWhole cs
  let (fraction, rest) ← readFraction rest
  let (exponent, rest) ← readExponent rest
  let blocked := match rest with
    | c :: _ => c == '.' || isNameStart c
    | [] => false
  if blocked then throw .invalidNumber
  else if fraction.isEmpty && exponent.isEmpty then return (.int (String.ofList (sign ++ whole)), rest)
  else return (.float (String.ofList (sign ++ whole ++ fraction ++ exponent)), rest)

/-- The character separates tokens and is otherwise ignored. -/
def isIgnored (c : Char) : Bool :=
  c == ' ' || c == '\t' || c == ',' || c == '\n' || c == '\r' || c.toNat == 0xFEFF

/-- The character does not end a comment. -/
def isCommentChar (c : Char) : Bool :=
  c != '\n' && c != '\r'

/-- The first token of a text that starts with none of the ignored characters. -/
def readToken (cs : List Char) : Except SyntaxError (Token × List Char) :=
  match cs with
  | [] => .error .unexpectedCharacter
  | '\x22' :: '\x22' :: '\x22' :: rest => readBlock [] [] rest
  | '.' :: '.' :: '.' :: rest => .ok (.spread, rest)
  | c :: rest =>
    if c == '\x22' then readString [] (rest.length + 1) rest
    else if marks.contains c then .ok (.mark c, rest)
    else if isNameStart c then .ok (.name (String.ofList (cs.takeWhile isNameContinue)), cs.dropWhile isNameContinue)
    else if c.isDigit || c == '-' then readNumber cs
    else .error .unexpectedCharacter

/-- The tokens of a text after those in `acc`, newest first. -/
def tokensFrom (acc : List Token) : Nat → List Char → Except SyntaxError (List Token)
  | 0, _ => .ok acc.reverse
  | _ + 1, [] => .ok acc.reverse
  | fuel + 1, c :: rest =>
    if isIgnored c then tokensFrom acc fuel rest
    else if c == '#' then tokensFrom acc fuel (rest.dropWhile isCommentChar)
    else
      match readToken (c :: rest) with
      | .ok (token, rest) => tokensFrom (token :: acc) fuel rest
      | .error e => .error e

/-- The tokens of a text. -/
def tokens (s : String) : Except SyntaxError (List Token) :=
  let cs := s.toList
  tokensFrom [] (cs.length + 1) cs

end TypedOperations.Language
