import TypedOperations.Text.LetterCase
import TypedOperations.Text.Printable.Table

/-!
# Quoted texts

A text as it is shown in messages and in the text of values: between quotes, with what cannot be printed escaped.
-/

namespace TypedOperations.Text

/-- The character is shown as it is. -/
def isPrintable (c : Char) : Bool :=
  inRanges printableRanges c.toNat

/-- One lower-case hexadecimal digit. -/
def hexDigit (n : Nat) : Char :=
  if n < 10 then Char.ofNat (48 + n) else Char.ofNat (87 + n)

/-- The last `width` lower-case hexadecimal digits of a number. -/
def hexDigits : Nat → Nat → List Char
  | 0, _ => []
  | width + 1, n => hexDigits width (n / 16) ++ [hexDigit (n % 16)]

/-- A character between quotes of the kind `quote`: the quote, the backslash and what cannot be printed are escaped. -/
def quoteChar (quote c : Char) : List Char :=
  if c == quote || c == '\x5c' then ['\x5c', c]
  else if c == '\t' then ['\x5c', 't']
  else if c == '\n' then ['\x5c', 'n']
  else if c == '\r' then ['\x5c', 'r']
  else if isPrintable c then [c]
  else
    let n := c.toNat
    if n < 0x100 then '\x5c' :: 'x' :: hexDigits 2 n
    else if n < 0x10000 then '\x5c' :: 'u' :: hexDigits 4 n
    else '\x5c' :: 'U' :: hexDigits 8 n

/-- The text between single quotes, or between double quotes if it holds single quotes and no double ones. -/
def quoted (s : String) : String :=
  let cs := s.toList
  let quote := if cs.contains '\x27' && !cs.contains '\x22' then '\x22' else '\x27'
  String.ofList (quote :: cs.flatMap (quoteChar quote) ++ [quote])

end TypedOperations.Text
