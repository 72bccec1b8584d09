import TypedOperations.Text.CharacterName.Table
import TypedOperations.Text.LetterCase

/-!
# Names of characters

Which texts name a character: the names of the table, in capital and small letters alike, the syllables spelled by their
sounds, and the ideographs numbered by their code points. The last two are written in capital letters.
-/

namespace TypedOperations.Text

/-! ## Listed names -/

/-- A name on the way through the rows of the table, with its last character first. -/
structure NameRow where
  letters : List Char
  /-- What the plus signs read so far add to the next count. -/
  more : Nat
  /-- A finished row held the wanted name. -/
  found : Bool

/-- One more character of the rows, where `wanted` is the wanted name with its last character first. -/
def NameRow.step (wanted : List Char) (r : NameRow) (c : Char) : NameRow :=
  if c == '\n' then r
  else if c == '+' then { r with more := r.more + 26 }
  else if c.isLower then ⟨r.letters.drop (r.more + (c.toNat - 97)), 0, r.found || r.letters == wanted⟩
  else { r with letters := c :: r.letters }

/-- One more character of the rows, or all that it is the mark of. -/
def NameRow.read (wanted : List Char) (r : NameRow) (c : Char) : NameRow :=
  match characterNameMarks.lookup c with
  | some text => text.foldl (NameRow.step wanted) r
  | none => NameRow.step wanted r c

/-- The table lists the name, given in capital letters. -/
def isListedName (name : List Char) : Bool :=
  let wanted := name.reverse
  let last := characterNameRows.foldl (NameRow.read wanted) ⟨[], 0, false⟩
  !name.isEmpty && (last.found || last.letters == wanted)

/-! ## Syllables and ideographs -/

/-- The sounds that begin a syllable; one of them is silent. -/
def leadingSounds : List String :=
  ["G", "GG", "N", "D", "DD", "R", "M", "B", "BB", "S", "SS", "", "J", "JJ", "C", "K", "T", "P", "H"]

/-- The sounds in the middle of a syllable. -/
def vowelSounds : List String :=
  ["A", "AE", "YA", "YAE", "EO", "E", "YEO", "YE", "O", "WA", "WAE", "OE", "YO", "U", "WEO", "WE", "WI", "YU", "EU", "YI", "I"]

/-- The sounds that end a syllable, or none. -/
def trailingSounds : List String :=
  ["", "G", "GG", "GS", "N", "NJ", "NH", "D", "L", "LG", "LM", "LB", "LS", "LT", "LP", "LH", "M", "B", "BS", "S", "SS", "NG", "J",
   "C", "K", "T", "P", "H"]

/-- What follows the longest of the sounds that the text starts with. -/
def afterSound? (sounds : List String) (text : List Char) : Option (List Char) :=
  let fitting := sounds.filter fun s => s.toList.isPrefixOf text
  if fitting.isEmpty then none else some (text.drop (fitting.foldl (fun n s => max n s.length) 0))

/-- The text spells a syllable by its sounds. -/
def isSyllable (text : List Char) : Bool :=
  ((afterSound? leadingSounds text).bind (afterSound? vowelSounds) |>.bind (afterSound? trailingSounds)) == some []

/-- The code points of unified ideographs. -/
def ideographRanges : List (Nat × Nat) :=
  [(0x3400, 0x4DBF), (0x4E00, 0x9FFF), (0x20000, 0x2A6DF), (0x2A700, 0x2B738), (0x2B740, 0x2B81D), (0x2B820, 0x2CEA1),
   (0x2CEB0, 0x2EBE0), (0x30000, 0x3134A)]

/-- The value of a digit of base sixteen, written with a capital letter. -/
def capitalHexDigit? (c : Char) : Option Nat :=
  if c.isDigit then some (c.toNat - 48)
  else if 'A' ≤ c && c ≤ 'F' then some (c.toNat - 55)
  else none

/-- The text is the number of a unified ideograph, in four or five digits. -/
def isIdeographNumber (text : List Char) : Bool :=
  (text.length == 4 || text.length == 5) &&
    match text.mapM capitalHexDigit? with
    | some ds => inRanges ideographRanges (ds.foldl (fun n d => 16 * n + d) 0)
    | none => false

/-! ## Names -/

/-- The text names a character. -/
def isCharacterName (name : List Char) : Bool :=
  let syllable := "HANGUL SYLLABLE ".toList
  let ideograph := "CJK UNIFIED IDEOGRAPH-".toList
  if syllable.isPrefixOf name then isSyllable (name.drop syllable.length)
  else if ideograph.isPrefixOf name then isIdeographNumber (name.drop ideograph.length)
  else isListedName (name.map Char.toUpper)

end TypedOperations.Text
