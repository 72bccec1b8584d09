import TypedOperations.Source.Expression

/-!
# Patterns of modules

The patterns that the cases of a `match` statement have.
-/

namespace TypedOperations.Source.Reader

/-- Takes a name that a pattern binds: any but an underscore, and no part of a longer pattern. -/
def captured : Reader Unit := do
  demand ((← next?) != some (.word "_"))
  name
  demand !((← seesMark ".") || (← seesMark "(") || (← seesMark "="))

/-- Takes a number with its sign, and says whether it is imaginary. -/
def signedNumber : Reader Bool := do
  let _ ← acceptsMark "-"
  match ← next? with
  | some (.number imaginary) =>
    skip
    return imaginary
  | _ => fail

/-- Takes a number, which may have a real and an imaginary part. -/
def numberPattern : Reader Unit := do
  let imaginary ← signedNumber
  if ← acceptsMarkOf ["+", "-"] then
    demand !imaginary
    match ← next? with
    | some (.number imaginary) =>
      demand imaginary
      skip
    | _ => fail

/-- A number with or without a sign comes next. -/
def seesNumber : Reader Bool := do
  match ← next? with
  | some (.number _) => return true
  | some (.mark "-") => return true
  | _ => return false

/-- Takes the key of an entry of a mapping: a literal or a dotted name. -/
def key (embedded : List Char → Bool) (fuel : Nat) : Reader Unit := do
  match ← next? with
  | some (.string _) => stringGroup embedded
  | some (.word w) =>
    if constants.contains w then skip
    else
      name
      mark "."
      dotted fuel
  | _ => numberPattern

/-- Takes a pattern with a star. -/
def starPattern : Reader Unit := do
  if ← acceptsWord "_" then return ()
  else captured

mutual

/-- A pattern, which may have alternatives and bind what it matches. -/
def pattern (embedded : List Char → Bool) : Nat → Reader Unit
  | 0 => fail
  | fuel + 1 => do
    alternatives embedded fuel
    if ← acceptsWord "as" then captured

/-- Patterns that bars separate. -/
def alternatives (embedded : List Char → Bool) : Nat → Reader Unit
  | 0 => fail
  | fuel + 1 => do
    closedPattern embedded fuel
    if ← acceptsMark "|" then alternatives embedded fuel

/-- A pattern that is a literal, a name, or in brackets. -/
def closedPattern (embedded : List Char → Bool) : Nat → Reader Unit
  | 0 => fail
  | fuel + 1 => do
    match ← next? with
    | some (.string _) => stringGroup embedded
    | some (.word w) =>
      if constants.contains w || w == "_" then skip
      else
        dotted (fuel + 1)
        if ← acceptsMark "(" then classPattern embedded false fuel
        else demand !(← seesMark "=")
    | some (.mark m) =>
      if m == "-" then numberPattern
      else
        skip
        if m == "(" then sequenceItems embedded ")" true fuel
        else if m == "[" then sequenceItems embedded "]" false fuel
        else if m == "\x7b" then mappingItems embedded fuel
        else fail
    | some (.number _) => numberPattern
    | _ => fail

/-- The items of a sequence, with the bracket that closes it. One item alone must not have a star if it is `grouped`. -/
def sequenceItems (embedded : List Char → Bool) (close : String) (grouped : Bool) : Nat → Reader Unit
  | 0 => fail
  | fuel + 1 => do
    if ← acceptsMark close then return ()
    else
      let starred ← sequenceItem embedded fuel
      if ← acceptsMark close then demand !(grouped && starred)
      else
        mark ","
        sequenceItems embedded close false fuel

/-- An item of a sequence, and whether it has a star. -/
def sequenceItem (embedded : List Char → Bool) : Nat → Reader Bool
  | 0 => fail
  | fuel + 1 => do
    if ← acceptsMark "*" then
      starPattern
      return true
    else
      pattern embedded fuel
      return false

/-- The entries of a mapping, with the closing brace. -/
def mappingItems (embedded : List Char → Bool) : Nat → Reader Unit
  | 0 => fail
  | fuel + 1 => do
    if ← acceptsMark "\x7d" then return ()
    else if ← acceptsMark "**" then
      captured
      let _ ← acceptsMark ","
      mark "\x7d"
    else
      key embedded fuel
      mark ":"
      pattern embedded fuel
      if ← acceptsMark "\x7d" then return ()
      else
        mark ","
        mappingItems embedded fuel

/-- The patterns of the parts of a class, with the closing parenthesis. Only named ones come after a named one. -/
def classPattern (embedded : List Char → Bool) (named : Bool) : Nat → Reader Unit
  | 0 => fail
  | fuel + 1 => do
    if ← acceptsMark ")" then return ()
    else
      let here ← seesNamedArgument
      demand (here || !named)
      if here then
        skip
        skip
      pattern embedded fuel
      if ← acceptsMark ")" then return ()
      else
        mark ","
        classPattern embedded here fuel

end

/-- The pattern of a case: one pattern, or several that commas separate. -/
def casePattern (embedded : List Char → Bool) : Nat → Reader Unit
  | 0 => fail
  | fuel + 1 => do
    let starred ← sequenceItem embedded fuel
    if ← acceptsMark "," then caseItems fuel
    else demand !starred
where
  /-- The patterns after a comma. -/
  caseItems : Nat → Reader Unit
    | 0 => fail
    | fuel + 1 => do
      if (← seesMark ":") || (← seesWord "if") then return ()
      else
        let _ ← sequenceItem embedded fuel
        if ← acceptsMark "," then caseItems fuel

end TypedOperations.Source.Reader
