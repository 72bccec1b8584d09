import TypedOperations.Number.Decimal

/-!
# Numerals in modules

Numbers as they are written in modules: decimal, hexadecimal, octal and binary integers, fractions with exponents, and
imaginary numbers, with single underscores between digits. A numeral ends where no letter or digit follows, unless a word
that joins expressions does.
-/

namespace TypedOperations.Source

/-- The character may stand in a word; characters beyond ASCII are judged when the word is complete. -/
def isWordChar (c : Char) : Bool :=
  c.isAlphanum || c == '_' || 128 ≤ c.toNat

/-- A numeral: the digits of a decimal integer, or any other number. -/
structure Numeral where
  imaginary : Bool
  /-- How many digits a decimal integer has; zero for other numbers. -/
  digits : Nat
deriving DecidableEq, Repr

namespace Numeral

/-- The words that may follow a numeral directly, by their beginnings. -/
def followingWords : List (List Char) :=
  ["and", "else", "for", "if", "in", "is", "or", "not"].map String.toList

/-- A numeral can end before this text. -/
def canEnd (cs : List Char) : Bool :=
  !(cs.head?.any isWordChar) || followingWords.any (·.isPrefixOf cs)

/-- What follows the digits of a numeral, single underscores between them included; `isDigit` judges a digit. The text is
what comes after a digit. -/
def afterDigits (isDigit : Char → Bool) : List Char → Option (List Char)
  | [] => some []
  | '_' :: d :: rest => if isDigit d then afterDigits isDigit rest else none
  | '_' :: [] => none
  | c :: rest => if isDigit c then afterDigits isDigit rest else some (c :: rest)

/-- What follows digits that are to come first. -/
def digitsFirst (isDigit : Char → Bool) : List Char → Option (List Char)
  | [] => none
  | c :: rest => if isDigit c then afterDigits isDigit rest else none

/-- What follows the digits of an integer of another base, which may start with an underscore. -/
def afterBase (isDigit : Char → Bool) (cs : List Char) : Option (Numeral × List Char) := do
  let rest ← digitsFirst isDigit (if cs.head? == some '_' then cs.tail else cs)
  if rest.head?.any Char.isDigit || !canEnd rest then none else some (⟨false, 0⟩, rest)

/-- The character is a hexadecimal digit. -/
def isHexDigit (c : Char) : Bool :=
  c.isDigit || ('a' ≤ c && c ≤ 'f') || ('A' ≤ c && c ≤ 'F')

/-- The end of a numeral that may be imaginary. -/
def ending (digits : Nat) : List Char → Option (Numeral × List Char)
  | [] => some (⟨false, digits⟩, [])
  | c :: rest =>
    if c == 'j' || c == 'J' then if canEnd rest then some (⟨true, 0⟩, rest) else none
    else if canEnd (c :: rest) then some (⟨false, digits⟩, c :: rest)
    else none

/-- The exponent of a numeral and its end. A letter that no exponent follows may start a word. -/
def exponent (digits : Nat) (cs : List Char) : Option (Numeral × List Char) :=
  match cs with
  | [] => ending digits []
  | e :: rest =>
    if e == 'e' || e == 'E' then
      match rest with
      | c :: more =>
        if c == '+' || c == '-' then (digitsFirst Char.isDigit more).bind (ending 0)
        else if c.isDigit then (afterDigits Char.isDigit more).bind (ending 0)
        else if canEnd cs then some (⟨false, digits⟩, cs)
        else none
      | [] => none
    else ending digits cs

/-- What follows the point of a fraction. -/
def fraction : List Char → Option (Numeral × List Char)
  | [] => ending 0 []
  | c :: rest => if c.isDigit then (afterDigits Char.isDigit rest).bind (exponent 0) else exponent 0 (c :: rest)

/-- The rest of a decimal numeral after its whole part of so many digits. -/
def afterWhole (digits : Nat) : List Char → Option (Numeral × List Char)
  | '.' :: rest => fraction rest
  | cs => exponent digits cs

/-- The digits at the start of a text, without the underscores between them. -/
def leadingDigits (cs : List Char) : List Char :=
  (cs.takeWhile fun c => c.isDigit || c == '_').filter Char.isDigit

/-- A numeral that starts with a zero: one of another base, or a decimal one, which is zero unless a fraction, an exponent
or an imaginary unit follows. -/
def afterZero (cs : List Char) : Option (Numeral × List Char) :=
  let decimal : Option (Numeral × List Char) := do
    let rest ← afterDigits Char.isDigit cs
    let (n, rest) ← afterWhole 1 rest
    if (leadingDigits cs).any (· != '0') && n.digits != 0 then none else some (n, rest)
  match cs with
  | [] => some (⟨false, 1⟩, [])
  | c :: rest =>
    if c == 'x' || c == 'X' then afterBase isHexDigit rest
    else if c == 'o' || c == 'O' then afterBase (fun d => '0' ≤ d && d ≤ '7') rest
    else if c == 'b' || c == 'B' then afterBase (fun d => d == '0' || d == '1') rest
    else decimal

/-- The numeral that a text starts with, and what follows it. -/
def read (cs : List Char) : Option (Numeral × List Char) := do
  let (n, rest) ← match cs with
    | '0' :: rest => afterZero rest
    | '.' :: rest => fraction rest
    | cs => do
      let rest ← digitsFirst Char.isDigit cs
      afterWhole (leadingDigits cs).length rest
  if Decimal.maxDigits < n.digits then none else some (n, rest)

end Numeral

end TypedOperations.Source
