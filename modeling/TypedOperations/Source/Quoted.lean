import TypedOperations.Source.Token
import TypedOperations.Text.CharacterName

/-!
# Strings in modules

What may stand between the quotes of a string: escapes must be complete, byte strings hold ASCII only, and a format string
holds expressions in braces, each with an optional conversion and format, in which expressions may nest once more.
-/

namespace TypedOperations.Source

/-- The number that hexadecimal digits spell. -/
def hexNumber (ds : List Char) : Nat :=
  ds.foldl (fun n d => 16 * n + (if d.isDigit then d.toNat - 48 else d.toLower.toNat - 87)) 0

/-- The text starts with so many hexadecimal digits that spell a code point. -/
def startsWithHex (count : Nat) (cs : List Char) : Bool :=
  let ds := cs.take count
  ds.length == count && ds.all Numeral.isHexDigit && decide (hexNumber ds ≤ 0x10FFFF)

/-- The text starts with the name of a character in braces. -/
def startsWithName : List Char → Bool
  | '\x7b' :: rest =>
    let name := rest.takeWhile (· != '\x7d')
    name.length < rest.length && Text.isCharacterName name
  | _ => false

/-- The text after a backslash and a letter goes on as the letter asks. -/
def escapeFits (bytes : Bool) (letter : Char) (rest : List Char) : Bool :=
  if letter == 'x' then startsWithHex 2 rest
  else if bytes then true
  else if letter == 'u' then startsWithHex 4 rest
  else if letter == 'U' then startsWithHex 8 rest
  else if letter == 'N' then startsWithName rest
  else true

/-- Every escape in a text is complete. -/
def escapesFit (bytes : Bool) : List Char → Bool
  | [] => true
  | '\x5c' :: c :: rest => escapeFits bytes c rest && escapesFit bytes rest
  | _ :: rest => escapesFit bytes rest

/-! ## Format strings -/

/-- A piece of text in a format string. -/
structure Piece where
  text : List Char
  /-- A doubled brace ends the piece. -/
  doubled : Bool
  rest : List Char

/-- The text after the name of a character in braces. -/
def skipName : List Char → List Char
  | '\x7b' :: rest => (rest.dropWhile (· != '\x7d')).drop 1
  | _ :: rest => rest
  | [] => []

/-- The text up to the next expression, doubled brace or end; `outer` says that it is not the format of an expression, and
only there braces are doubled. A closing brace that stands alone there is an error. -/
def piece (raw outer : Bool) : Nat → List Char → List Char → Option Piece
  | 0, _, _ => none
  | _ + 1, text, [] => some ⟨text.reverse, false, []⟩
  | fuel + 1, text, c :: rest =>
    let brace (text : List Char) (c : Char) (rest : List Char) : Option Piece :=
      if outer && rest.head? == some c then some ⟨(c :: text).reverse, true, rest.drop 1⟩
      else if outer && c == '\x7d' then none
      else some ⟨text.reverse, false, c :: rest⟩
    if !raw && c == '\x5c' then
      match rest with
      | [] => some ⟨('\x5c' :: text).reverse, false, []⟩
      | d :: more =>
        if d == 'N' then
          let after := skipName more
          piece raw outer fuel ((more.take (more.length - after.length)).reverse ++ 'N' :: '\x5c' :: text) after
        else if d == '\x7b' || d == '\x7d' then brace ('\x5c' :: text) d more
        else piece raw outer fuel (d :: '\x5c' :: text) more
    else if c == '\x7b' || c == '\x7d' then brace text c rest
    else piece raw outer fuel (c :: text) rest

/-- A string inside an expression: its quote, and whether it is opened by three of them. -/
structure Inside where
  quote : Char
  long : Bool

/-- Two quotes follow. -/
def twoFollow (quote : Char) : List Char → Bool
  | a :: b :: _ => a == quote && b == quote
  | _ => false

/-- The bracket that closes a bracket. -/
def closer? (c : Char) : Option Char :=
  if c == '(' then some ')' else if c == '[' then some ']' else if c == '\x7b' then some '\x7d' else none

/-- The text of an expression in a format string up to the mark that ends it, and the text from that mark on. Backslashes and
comments may not stand in it, and its brackets match. -/
def expressionText : Nat → Option Inside → List Char → List Char → List Char → Option (List Char × List Char)
  | 0, _, _, _, _ => none
  | _ + 1, _, _, _, [] => none
  | fuel + 1, inside, brackets, text, c :: rest =>
    if c == '\x5c' then none
    else
      match inside with
      | some s =>
        if c == s.quote && s.long && twoFollow c rest then
          expressionText fuel none brackets (c :: c :: c :: text) (rest.drop 2)
        else if c == s.quote && !s.long then expressionText fuel none brackets (c :: text) rest
        else expressionText fuel inside brackets (c :: text) rest
      | none =>
        if isQuote c then
          if twoFollow c rest then
            expressionText fuel (some ⟨c, true⟩) brackets (c :: c :: c :: text) (rest.drop 2)
          else expressionText fuel (some ⟨c, false⟩) brackets (c :: text) rest
        else if c == '#' then none
        else
          match closer? c with
          | some close =>
            if brackets.length < maxBrackets then expressionText fuel none (close :: brackets) (c :: text) rest else none
          | none =>
            if brackets.isEmpty && ['!', ':', '\x7d', '=', '>', '<'].contains c then
              if rest.head? == some '=' && ['!', '=', '<', '>'].contains c then
                expressionText fuel none [] ('=' :: c :: text) (rest.drop 1)
              else if c == '>' || c == '<' then expressionText fuel none [] (c :: text) rest
              else some (text.reverse, c :: rest)
            else if c == ')' || c == ']' || c == '\x7d' then
              match brackets with
              | b :: others => if b == c then expressionText fuel none others (c :: text) rest else none
              | [] => none
            else expressionText fuel none brackets (c :: text) rest

/-- The text after the sign that asks for the text of an expression, and after the blanks there. -/
def skipSelf : List Char → List Char
  | '=' :: rest => rest.dropWhile fun c => c == ' ' || (9 ≤ c.toNat && c.toNat ≤ 13)
  | cs => cs

/-- The text after a conversion, if there is one. -/
def skipConversion : List Char → Option (List Char)
  | '!' :: c :: rest => if c == 's' || c == 'r' || c == 'a' then some rest else none
  | '!' :: [] => none
  | cs => some cs

/-- The expression holds more than blanks. -/
def isFilled (text : List Char) : Bool :=
  text.any fun c => !(c == ' ' || c == '\t' || c == '\n' || c == '\x0c')

/-- What follows the pieces and expressions of a format string, or of a format in it: nothing, or a closing brace. `embedded`
judges expressions, and `level` counts the formats around. -/
def formatPieces (embedded : List Char → Bool) (raw : Bool) : Nat → Nat → List Char → Option (List Char)
  | 0, _, _ => none
  | fuel + 1, level, cs => do
    let p ← piece raw (level == 0) (cs.length + 1) [] cs
    if !raw && !escapesFit false p.text then none
    if p.doubled then formatPieces embedded raw fuel level p.rest
    else
      match p.rest with
      | '\x7b' :: rest =>
        if 2 ≤ level then none
        let (text, rest) ← expressionText (rest.length + 1) none [] [] rest
        if !isFilled text || !embedded text then none
        let rest ← skipConversion (skipSelf rest)
        let rest ← match rest with
          | ':' :: format => formatPieces embedded raw fuel (level + 1) format
          | _ => some rest
        match rest with
        | '\x7d' :: rest => formatPieces embedded raw fuel level rest
        | _ => none
      | rest => if level == 0 && !rest.isEmpty then none else some rest

/-- The body of a string fits its letters; `embedded` judges the expressions of format strings. -/
def StringToken.fits (embedded : List Char → Bool) (s : StringToken) : Bool :=
  if s.format then formatPieces embedded s.raw (s.body.length + 1) 0 s.body == some []
  else if s.bytes then s.body.all (·.toNat < 128) && (s.raw || escapesFit true s.body)
  else s.raw || escapesFit false s.body

end TypedOperations.Source
