import TypedOperations.Language.Origin
import TypedOperations.Language.Parser

/-!
# What is wrong with a constant

What is said of a text that should be a constant value and is not: the first character or token at which it cannot go on,
and what was expected there.
-/

namespace TypedOperations.Language

/-- What is wrong with a text, and after how many of its characters. -/
structure Complaint where
  text : String
  offset : Nat
deriving DecidableEq, Repr

namespace Complaint

/-! ## Characters -/

/-- The character that a text starts with, as it is shown. -/
def shown : List Char → String
  | [] => "<EOF>"
  | c :: _ =>
    if 32 ≤ c.toNat && c.toNat ≤ 126 then "'" ++ c.toString ++ "'"
    else
      let digits := (Nat.toDigits 16 c.toNat).map Char.toUpper
      "U+" ++ String.ofList (List.replicate (4 - digits.length) '0' ++ digits)

/-- A digit is missing. -/
def noDigit (offset : Nat) (rest : List Char) : Complaint :=
  ⟨"Invalid number, expected digit but got: " ++ shown rest ++ ".", offset⟩

/-- What follows digits that are to come first, and how many there are. -/
def afterDigits (offset : Nat) (cs : List Char) : Except Complaint (Nat × List Char) :=
  match Decimal.spanDigits cs with
  | ([], _) => .error (noDigit offset cs)
  | (ds, rest) => .ok (offset + ds.length, rest)

/-- What follows the whole part of a numeral. -/
def afterWhole (offset : Nat) : List Char → Except Complaint (Nat × List Char)
  | '0' :: rest =>
    if rest.head?.any Char.isDigit then
      .error ⟨"Invalid number, unexpected digit after 0: " ++ shown rest ++ ".", offset + 1⟩
    else .ok (offset + 1, rest)
  | cs => afterDigits offset cs

/-- What follows the fraction of a numeral, if it has one. -/
def afterFraction (offset : Nat) : List Char → Except Complaint (Nat × List Char)
  | '.' :: rest => afterDigits (offset + 1) rest
  | cs => .ok (offset, cs)

/-- What follows the exponent of a numeral, if it has one. -/
def afterExponent (offset : Nat) (cs : List Char) : Except Complaint (Nat × List Char) :=
  match cs with
  | [] => .ok (offset, cs)
  | e :: rest =>
    if e == 'e' || e == 'E' then
      match rest with
      | '+' :: rest => afterDigits (offset + 2) rest
      | '-' :: rest => afterDigits (offset + 2) rest
      | rest => afterDigits (offset + 1) rest
    else .ok (offset, cs)

/-- What is wrong with a numeral. -/
def ofNumber (offset : Nat) (cs : List Char) : Complaint :=
  let (start, cs) := match cs with
    | '-' :: rest => (offset + 1, rest)
    | cs => (offset, cs)
  match (do
    let (offset, cs) ← afterWhole start cs
    let (offset, cs) ← afterFraction offset cs
    let (offset, cs) ← afterExponent offset cs
    return noDigit offset cs : Except Complaint Complaint) with
  | .ok c => c
  | .error c => c

/-- A text in quotes, as it is shown. -/
def quotedPart (cs : List Char) : String :=
  "'" ++ String.ofList cs ++ "'."

/-- The text of an escape in braces that cannot be read; `fuel` bounds its length. -/
def bracedEscape : Nat → List Char → List Char
  | 0, _ => []
  | _ + 1, [] => []
  | fuel + 1, c :: rest =>
    if c == '\x7d' || (Json.hexValue? c).isNone then [c] else c :: bracedEscape fuel rest

/-- What is wrong with a string from some character on; `fuel` bounds its length. -/
def ofString (offset : Nat) : Nat → List Char → Complaint
  | 0, _ => ⟨"Unterminated string.", offset⟩
  | _ + 1, [] => ⟨"Unterminated string.", offset⟩
  | fuel + 1, c :: rest =>
    if c == '\n' || c == '\r' then ⟨"Unterminated string.", offset⟩
    else if c == '\x5c' then
      match readEscape rest with
      | .ok (_, after) => ofString (offset + 1 + (rest.length - after.length)) fuel after
      | .error _ =>
        match rest with
        | 'u' :: '\x7b' :: more =>
          ⟨"Invalid Unicode escape sequence: " ++ quotedPart ('\x5c' :: 'u' :: '\x7b' :: bracedEscape 9 more), offset⟩
        | 'u' :: more => ⟨"Invalid Unicode escape sequence: " ++ quotedPart ('\x5c' :: 'u' :: more.take 4), offset⟩
        | _ => ⟨"Invalid character escape sequence: " ++ quotedPart ('\x5c' :: rest.take 1), offset⟩
    else ofString (offset + 1) fuel rest

/-- What is wrong with a text that starts with no token. -/
def ofCharacters (offset : Nat) (cs : List Char) : Complaint :=
  match cs with
  | '.' :: '.' :: _ => ⟨"Unexpected '..', did you mean '...'?", offset⟩
  | '.' :: rest =>
    match Decimal.spanDigits rest with
    | ([], _) => ⟨"Unexpected character: '.'.", offset⟩
    | (ds, _) =>
      ⟨"Invalid number, expected digit before '.', did you mean '0." ++ String.ofList ds ++ "'?", offset⟩
  | '\x22' :: '\x22' :: '\x22' :: rest => ⟨"Unterminated string.", offset + 3 + rest.length⟩
  | '\x22' :: rest => ofString (offset + 1) (rest.length + 1) rest
  | '\x27' :: _ => ⟨"Unexpected single quote character ('), did you mean to use a double quote (\")?", offset⟩
  | cs =>
    if cs.head?.any fun c => c.isDigit || c == '-' then ofNumber offset cs
    else ⟨"Unexpected character: " ++ shown cs ++ ".", offset⟩

/-! ## Tokens -/

/-- A token with its place, or what is found where there is none. -/
inductive Lexed where
  | token (t : Token) (offset : Nat)
  | broken (c : Complaint)
  | ended (offset : Nat)

/-- The tokens of a text, and what follows the last one; `total` is the length of the whole text. -/
def lexed (total : Nat) : Nat → List Char → List Lexed
  | 0, _ => [.ended total]
  | _ + 1, [] => [.ended total]
  | fuel + 1, c :: rest =>
    if isIgnored c then lexed total fuel rest
    else if c == '#' then lexed total fuel (rest.dropWhile isCommentChar)
    else
      let offset := total - (rest.length + 1)
      match readToken (c :: rest) with
      | .ok (t, after) => .token t offset :: lexed total fuel after
      | .error _ => [.broken (ofCharacters offset (c :: rest))]

/-- A token as it is named. -/
def named : Token → String
  | .mark c => "'" ++ c.toString ++ "'"
  | .spread => "'...'"
  | .name n => "Name '" ++ n ++ "'"
  | .int digits => "Int '" ++ digits ++ "'"
  | .float digits => "Float '" ++ digits ++ "'"
  | .string value => "String '" ++ value ++ "'"
  | .block value => "BlockString '" ++ value ++ "'"

/-- Something else was expected than what comes next. -/
def expected (what : String) : List Lexed → Complaint
  | .token t offset :: _ => ⟨"Expected " ++ what ++ ", found " ++ named t ++ ".", offset⟩
  | .broken c :: _ => c
  | .ended offset :: _ => ⟨"Expected " ++ what ++ ", found <EOF>.", offset⟩
  | [] => ⟨"Expected " ++ what ++ ", found <EOF>.", 0⟩

/-- No value starts with what comes next. -/
def unexpected : List Lexed → Complaint
  | .token t offset :: _ => ⟨"Unexpected " ++ named t ++ ".", offset⟩
  | .broken c :: _ => c
  | .ended offset :: _ => ⟨"Unexpected <EOF>.", offset⟩
  | [] => ⟨"Unexpected <EOF>.", 0⟩

/-- A value nests deeper than values may. -/
def tooDeep (offset : Nat) : Complaint :=
  ⟨"Document is nested too deeply. Parsing aborted.", offset⟩

/-- What is wrong with a dollar sign: a constant has no variables. -/
def ofVariable (offset : Nat) : List Lexed → Complaint
  | .token (.name n) _ :: _ => ⟨"Unexpected variable '$" ++ n ++ "' in constant value.", offset⟩
  | .broken c :: _ => c
  | _ => ⟨"Unexpected '$'.", offset⟩

mutual

/-- What follows a value that may nest as deep as there is `room`; `fuel` bounds how many tokens it has. -/
def afterValue (room : Nat) : Nat → List Lexed → Except Complaint (List Lexed)
  | 0, xs => .error (unexpected xs)
  | fuel + 1, xs =>
    match xs with
    | .token (.mark '[') offset :: rest => if room == 0 then .error (tooDeep offset) else afterItems (room - 1) fuel rest
    | .token (.mark '\x7b') offset :: rest =>
      if room == 0 then .error (tooDeep offset) else afterFields (room - 1) fuel rest
    | .token (.mark '$') offset :: rest => .error (ofVariable offset rest)
    | .token (.mark _) _ :: _ => .error (unexpected xs)
    | .token .spread _ :: _ => .error (unexpected xs)
    | .token _ _ :: rest => .ok rest
    | _ => .error (unexpected xs)

/-- What follows the items of a list and its closing bracket. -/
def afterItems (room : Nat) : Nat → List Lexed → Except Complaint (List Lexed)
  | 0, xs => .error (unexpected xs)
  | fuel + 1, xs =>
    match xs with
    | .token (.mark ']') _ :: rest => .ok rest
    | _ => do afterItems room fuel (← afterValue room fuel xs)

/-- What follows the fields of an object and its closing brace. -/
def afterFields (room : Nat) : Nat → List Lexed → Except Complaint (List Lexed)
  | 0, xs => .error (unexpected xs)
  | fuel + 1, xs =>
    match xs with
    | .token (.mark '\x7d') _ :: rest => .ok rest
    | .token (.name _) _ :: rest =>
      match rest with
      | .token (.mark ':') _ :: rest => do afterFields room fuel (← afterValue room fuel rest)
      | _ => .error (expected "':'" rest)
    | _ => .error (expected "Name" xs)

end

/-- What is wrong with a text that is no constant; none if nothing is. -/
def ofConstant? (text : String) : Option Complaint :=
  let cs := text.toList
  let xs := lexed cs.length (cs.length + 1) cs
  match afterValue maxNesting (2 * xs.length + 2) xs with
  | .error c => some c
  | .ok [.ended _] => none
  | .ok rest => some (expected "<EOF>" rest)

/-- The complaint with the place in the text that it is about. -/
def message (c : Complaint) (text : String) : String :=
  let o := Origin.request text
  "Syntax Error: " ++ c.text ++ "\n\n" ++ o.excerpt (o.positionAfter c.offset)

end Complaint

/-- What is said of a text that is no constant. -/
def constantFault (text : String) : String :=
  (Complaint.ofConstant? text).elim "Syntax Error" (·.message text)

end TypedOperations.Language
