import TypedOperations.Text.LetterCase

/-!
# Singular nouns

The singular of an English plural noun. Only the last word of a mixed-case name is inflected: first a list of words
without a plural, then irregular plurals, then endings in a fixed order, the first that fits.
-/

namespace TypedOperations.Naming

/-- Nouns whose plural is not told apart. -/
def uncountableNouns : List String :=
  ["series", "species", "news", "information", "equipment", "metadata"]

/-- Plurals that follow no ending rule, each with its singular. -/
def irregularPlurals : List (String × String) :=
  [("children", "child"), ("people", "person"), ("men", "man"), ("women", "woman"), ("mice", "mouse"),
   ("geese", "goose"), ("feet", "foot"), ("teeth", "tooth"), ("data", "datum"), ("indices", "index"),
   ("matrices", "matrix"), ("vertices", "vertex")]

/-- What must stand before the ending that a rule replaces. -/
inductive Stem where
  | anything
  | oneOf (endings : List String)
  | otherThan (letters : List Char)

/-- A rule of inflection: an ending, after a stem of the right kind, is replaced. -/
structure EndingRule where
  stem : Stem
  ending : String
  singular : String

/-- The rules, in the order in which they are tried. -/
def endingRules : List EndingRule :=
  [⟨.oneOf ["quiz"], "zes", ""⟩,
   ⟨.oneOf ["m"], "ovies", "ovie"⟩,
   ⟨.oneOf ["shoe"], "s", ""⟩,
   ⟨.oneOf ["o"], "es", ""⟩,
   ⟨.oneOf ["alias", "status", "bus", "address"], "es", ""⟩,
   ⟨.oneOf ["ss"], "es", ""⟩,
   ⟨.oneOf ["x", "ch", "sh", "z"], "es", ""⟩,
   ⟨.otherThan ['a', 'e', 'i', 'o', 'u', 'y'], "ies", "y"⟩,
   ⟨.oneOf ["hive", "tive"], "s", ""⟩,
   ⟨.oneOf ["l", "r"], "ves", "f"⟩,
   ⟨.oneOf ["analy", "ba", "diagno", "parenthe", "progno", "synop", "the"], "ses", "sis"⟩,
   ⟨.oneOf ["ss", "us", "is"], "", ""⟩,
   ⟨.anything, "s", ""⟩]

/-- The character is the small letter `p` in either case; the long s counts as an s, and the dotted and the dotless i
count as an i. -/
def sameLetter (p c : Char) : Bool :=
  c == p || c.toLower == p || (p == 's' && c.toNat == 0x17F) || (p == 'i' && (c.toNat == 0x130 || c.toNat == 0x131))

/-- What precedes the ending, which is given reversed and so is the word. -/
def dropEnding? : List Char → List Char → Option (List Char)
  | [], cs => some cs
  | _ :: _, [] => none
  | p :: ps, c :: cs => if sameLetter p c then dropEnding? ps cs else none

/-- The reversed characters before an ending fit the stem. -/
def Stem.fits : Stem → List Char → Bool
  | .anything, _ => true
  | .oneOf endings, cs => endings.any fun e => (dropEnding? e.toList.reverse cs).isSome
  | .otherThan letters, cs =>
    match cs with
    | [] => false
    | c :: _ => !letters.any (sameLetter · c)

/-- The reversed word with the ending of a rule replaced, if the rule applies. -/
def EndingRule.replace? (rule : EndingRule) (reversed : List Char) : Option (List Char) :=
  match dropEnding? rule.ending.toList.reverse reversed with
  | some stem => if rule.stem.fits stem then some (rule.singular.toList.reverse ++ stem) else none
  | none => none

/-- A text reversed, apart from one line feed at its end. -/
def reversedBody (cs : List Char) : List Char × List Char :=
  match cs.reverse with
  | '\n' :: body => (['\n'], body)
  | body => ([], body)

/-- A small letter or a digit. -/
def isSmallOrDigit (c : Char) : Bool := c.isLower || c.isDigit

/-- The reversed last word of a reversed name, and what is before it: a run of small letters and digits with the capital
before it, or a run of capitals. -/
def lastWord? (reversed : List Char) : Option (List Char × List Char) :=
  match reversed with
  | [] => none
  | c :: _ =>
    if isSmallOrDigit c then
      let word := reversed.takeWhile isSmallOrDigit
      match reversed.dropWhile isSmallOrDigit with
      | u :: before => if u.isUpper then some (word ++ [u], before) else some (word, u :: before)
      | [] => some (word, [])
    else if c.isUpper then some (reversed.takeWhile Char.isUpper, reversed.dropWhile Char.isUpper)
    else none

/-- The name before its last word, and the last word; a line feed after the last word is left out, and a name without a
last word is all last word. -/
def splitLastWord (cs : List Char) : List Char × List Char :=
  match lastWord? (reversedBody cs).2 with
  | some (word, before) => (before.reverse, word.reverse)
  | none => ([], cs)

/-- The last word with the first rule that applies; a line feed at its end stays. -/
def inflect? (tail : List Char) : Option (List Char) :=
  let (feed, reversed) := reversedBody tail
  (endingRules.findSome? (·.replace? reversed)).map fun r => r.reverse ++ feed

/-- The singular of a noun. -/
def singular (word : String) : String :=
  let (head, tail) := splitLastWord word.toList
  let lower := String.ofList (Text.lower tail)
  if uncountableNouns.contains lower then word
  else
    match irregularPlurals.lookup lower with
    | some noun =>
      let noun := noun.toList
      let noun := if (tail.head?.map Char.isUpper).getD false then (noun.take 1).map Char.toUpper ++ noun.drop 1 else noun
      String.ofList (head ++ noun)
    | none =>
      match inflect? tail with
      | some tail => String.ofList (head ++ tail)
      | none => word

end TypedOperations.Naming
