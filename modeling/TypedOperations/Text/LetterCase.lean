import TypedOperations.Text.LetterCase.Table

/-!
# Letter case

Upper-case and lower-case forms of a text by the full mappings of the Unicode standard: a character may map to several,
and a capital sigma at the end of a word becomes a final sigma.
-/

namespace TypedOperations.Text

/-- Some range holds the code point. -/
def inRanges (ranges : List (Nat × Nat)) (n : Nat) : Bool :=
  ranges.any fun r => r.1 ≤ n && n ≤ r.2

/-- The code point a run maps `n` to, if `n` belongs to it. -/
def runImage (n : Nat) : Nat × Nat × Nat × Nat → Option Nat
  | (first, last, stride, image) =>
    if first ≤ n && n ≤ last && (n - first) % stride == 0 then some (image + (n - first)) else none

/-- The mapping of one character by runs and special cases; a character in neither stays. -/
def mapByTable (special : List (Nat × List Nat)) (runs : List (Nat × Nat × Nat × Nat)) (c : Char) : List Char :=
  match special.lookup c.toNat with
  | some image => image.map Char.ofNat
  | none =>
    match runs.findSome? (runImage c.toNat) with
    | some n => [Char.ofNat n]
    | none => [c]

/-- The lower-case form of a character outside any context. -/
def lowerChar (c : Char) : List Char :=
  if c.toNat < 128 then [c.toLower] else mapByTable lowerSpecial lowerRuns c

/-- The upper-case form of a character. -/
def upperChar (c : Char) : List Char :=
  if c.toNat < 128 then [c.toUpper] else mapByTable upperSpecial upperRuns c

/-- The character has a case: it is a lower-case, upper-case or title-case letter. -/
def isCased (c : Char) : Bool :=
  inRanges casedRanges c.toNat

/-- The character is passed over when the neighbours of a sigma are examined. -/
def isCaseIgnorable (c : Char) : Bool :=
  inRanges caseIgnorableRanges c.toNat

/-- The first character that counts has a case. -/
def startsCased (cs : List Char) : Bool :=
  match cs.dropWhile isCaseIgnorable with
  | [] => false
  | c :: _ => isCased c

/-- The lower-case form of a text whose characters before it are `before`, nearest first. -/
def lowerFrom (before : List Char) : List Char → List Char
  | [] => []
  | c :: rest =>
    let image :=
      if c.toNat == 0x3A3 then [if startsCased before && !startsCased rest then Char.ofNat 0x3C2 else Char.ofNat 0x3C3]
      else lowerChar c
    image ++ lowerFrom (c :: before) rest

/-- The lower-case form of a text. -/
def lower (cs : List Char) : List Char :=
  lowerFrom [] cs

/-- The upper-case form of a text. -/
def upper (cs : List Char) : List Char :=
  cs.flatMap upperChar

end TypedOperations.Text
