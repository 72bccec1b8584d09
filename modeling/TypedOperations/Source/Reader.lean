import TypedOperations.Source.Quoted

/-!
# Reading tokens

A reader takes tokens from the front of a list, or fails. The readers here take one token, or look at one.
-/

namespace TypedOperations.Source

/-- A reader of tokens. -/
abbrev Reader (α : Type) := StateT (List Token) Option α

namespace Reader

/-- No tokens can be read this way. -/
def fail {α : Type} : Reader α := fun _ => none

/-- The reader goes on only if the condition holds. -/
def demand (condition : Bool) : Reader Unit :=
  if condition then pure () else fail

/-- The token that comes next. -/
def next? : Reader (Option Token) := fun ts => some (ts.head?, ts)

/-- The token after the next one. -/
def second? : Reader (Option Token) := fun ts => some (ts.tail.head?, ts)

/-- Leaves out the next token. -/
def skip : Reader Unit := fun ts => some ((), ts.tail)

/-- The next token is the one given, which is not taken. -/
def sees (t : Token) : Reader Bool := return (← next?) == some t

/-- Takes the next token if it is the one given, and says whether it was. -/
def accepts (t : Token) : Reader Bool := do
  if ← sees t then
    skip
    return true
  else return false

/-- Takes the next token, which must be the one given. -/
def expects (t : Token) : Reader Unit := do
  demand (← accepts t)

/-- The next token is the mark. -/
def seesMark (m : String) : Reader Bool := sees (.mark m)

/-- The next token is the word. -/
def seesWord (w : String) : Reader Bool := sees (.word w)

/-- Takes the mark if it comes next, and says whether it did. -/
def acceptsMark (m : String) : Reader Bool := accepts (.mark m)

/-- Takes the word if it comes next, and says whether it did. -/
def acceptsWord (w : String) : Reader Bool := accepts (.word w)

/-- Takes one of the marks if it comes next, and says whether one did. -/
def acceptsMarkOf (ms : List String) : Reader Bool := do
  match ← next? with
  | some (.mark m) => if ms.contains m then acceptsMark m else return false
  | _ => return false

/-- Takes one of the words if it comes next, and says whether one did. -/
def acceptsWordOf (ws : List String) : Reader Bool := do
  match ← next? with
  | some (.word w) => if ws.contains w then acceptsWord w else return false
  | _ => return false

/-- Takes the mark, which must come next. -/
def mark (m : String) : Reader Unit := expects (.mark m)

/-- Takes the word, which must come next. -/
def word (w : String) : Reader Unit := expects (.word w)

/-- The token is a name: a word that is not reserved. -/
def isName : Option Token → Bool
  | some (.word w) => !Text.isReserved w
  | _ => false

/-- Takes a name. -/
def name : Reader Unit := do
  demand (isName (← next?))
  skip

/-- The first reader, or the second on the same tokens if the first fails. -/
def orElse {α : Type} (p q : Reader α) : Reader α := fun ts =>
  match p ts with
  | some r => some r
  | none => q ts

/-- What the reader finds, or nothing with no token taken if it fails. -/
def attempt {α : Type} (p : Reader α) : Reader (Option α) := fun ts =>
  match p ts with
  | some (a, rest) => some (some a, rest)
  | none => some (none, ts)

/-- Takes names that points separate. -/
def dotted : Nat → Reader Unit
  | 0 => fail
  | fuel + 1 => do
    name
    if ← acceptsMark "." then dotted fuel

/-- The strings that come next. -/
def strings : List Token → List StringToken × List Token
  | .string s :: rest =>
    let (ss, rest) := strings rest
    (s :: ss, rest)
  | rest => ([], rest)

/-- Takes one or more strings side by side. All of them are byte strings or none is. -/
def stringGroup (embedded : List Char → Bool) : Reader Unit := fun ts =>
  let (ss, rest) := strings ts
  if !ss.isEmpty && (ss.all (·.bytes) || ss.all (!·.bytes)) && ss.all (·.fits embedded) then some ((), rest) else none

end Reader

end TypedOperations.Source
