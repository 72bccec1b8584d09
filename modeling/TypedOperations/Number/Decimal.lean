import TypedOperations.Number.Binary64
import TypedOperations.Number.Digit
import TypedOperations.Text.Blank
import TypedOperations.Text.LetterCase

/-!
# Decimal numerals

Reading integers and decimal fractions from text. An integer of more than 4300 digits is refused.
-/

namespace TypedOperations.Decimal

/-- The most digits an integer may have when it is read or written. -/
def maxDigits : Nat := 4300

/-- The value of a digit. -/
def digitValue (c : Char) : Nat := c.toNat - 48

/-- The number that digits spell. -/
def natOfDigits (cs : List Char) : Nat :=
  cs.foldl (fun n c => 10 * n + digitValue c) 0

/-- The digits a text starts with, and what follows them. -/
def spanDigits (cs : List Char) : List Char × List Char :=
  (cs.takeWhile Char.isDigit, cs.dropWhile Char.isDigit)

/-- A sign, if the text starts with one: whether it is a minus, and what follows. -/
def spanSign : List Char → Bool × List Char
  | '-' :: rest => (true, rest)
  | '+' :: rest => (false, rest)
  | cs => (false, cs)

/-- The integer that an optional minus and digits spell. -/
def intOfText (s : String) : Int :=
  let (negative, cs) := spanSign s.toList
  let n := natOfDigits cs
  if negative then -(n : Int) else (n : Int)

/-- How many digits a numeral has, its sign left out. -/
def digitCount (s : String) : Nat :=
  (s.toList.filter Char.isDigit).length

/-- The exponent part of a numeral: `e`, an optional sign and digits; nothing is the exponent zero. -/
def exponentOf (cs : List Char) : Option Int :=
  match cs with
  | [] => some 0
  | c :: rest =>
    if c == 'e' || c == 'E' then
      let (negative, rest) := spanSign rest
      let (ds, rest) := spanDigits rest
      if ds.isEmpty || !rest.isEmpty then none
      else
        let n := natOfDigits ds
        some (if negative then -(n : Int) else (n : Int))
    else none

/-- Single underscores between digits, which readers pass over, taken out; `none` where one stands elsewhere. -/
def dropUnderscores (previous : Char) : List Char → Option (List Char)
  | [] => if previous == '_' then none else some []
  | c :: rest =>
    if c == '_' then
      if previous.isDigit then dropUnderscores c rest else none
    else if previous == '_' && !c.isDigit then none
    else (dropUnderscores c rest).map (c :: ·)

/-- The number a decimal fraction with optional sign, point and exponent is nearest to. -/
def unsignedOfChars (negative : Bool) (cs : List Char) : Option Binary64 :=
  let (whole, rest) := spanDigits cs
  let (fraction, rest) := match rest with
    | '.' :: rest => spanDigits rest
    | rest => ([], rest)
  if whole.isEmpty && fraction.isEmpty then none
  else (exponentOf rest).map fun e =>
    Binary64.ofDecimal negative (natOfDigits (whole ++ fraction)) (e - fraction.length)

/-- The number a text spells: a decimal fraction, an infinity or `nan`, in any case and between blanks. Its digits may be
of any script. -/
def binary64OfText? (s : String) : Option Binary64 := do
  let cs ← dropUnderscores ' ' ((Text.trim s.toList).map plainDigit)
  let (negative, cs) := spanSign cs
  let word := String.ofList (Text.lower cs)
  if word == "inf" || word == "infinity" then some (.infinite negative)
  else if word == "nan" then some .nan
  else unsignedOfChars negative cs

end TypedOperations.Decimal
