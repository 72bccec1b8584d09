import TypedOperations.Proofs.Entries
import TypedOperations.Proofs.Source.Lexemes
import TypedOperations.Value

/-!
# Reading literals of values

Values are read from literals: `None`, `True` and `False`, whole numbers and their negatives, strings, lists, dictionaries and
calls of `GraphQLVariable` on a string. A text is cut into atoms, which are read one after another with a stack of the lists and
dictionaries that were begun; a comma may stand before a closing bracket, and a key that comes again keeps its place and gets the
later value. Text with a null character is no text of a module.
-/

namespace TypedOperations.Literal

open Source

/-! ## Cutting into atoms -/

/-- What is read at once: a word, a whole number, the text of a string or a mark. -/
inductive Atom where
  | word (s : String)
  | number (n : Nat)
  | text (s : String)
  | mark (m : String)

/-- The atom of a token that is written with these characters. A whole number is written with digits only. -/
def atomOf? (cs : List Char) : Token → Option Atom
  | .word w => some (.word w)
  | .number imaginary => if !imaginary && cs.all Char.isDigit then some (.number (Decimal.natOfDigits cs)) else none
  | .string s => s.value?.map .text
  | .mark m => some (.mark m)
  | _ => none

/-- The atoms of a text on one line. -/
def atoms (fuel : Nat) (cs : List Char) : Option (List Atom) :=
  (cut fuel cs).bind fun parts => parts.mapM fun part => atomOf? part.1 part.2

/-! ## The reader -/

/-- What was begun and waits for a value. -/
inductive Frame where
  /-- A list, with the items read, newest first. -/
  | items (before : List Value)
  /-- A dictionary after a key. -/
  | entry (before : Entries Value) (key : String)

/-- What is read next. -/
inductive Awaited where
  | value
  /-- The number after a minus. -/
  | negative
  /-- A key of a dictionary, or its end. -/
  | key (before : Entries Value)
  | colon (before : Entries Value) (key : String)
  /-- The bracket after the class of variables. -/
  | bracket
  /-- The name of a variable. -/
  | name
  | close (name : String)
  /-- What follows a value. -/
  | more (v : Value)

/-- A state of reading; what was begun last comes first. -/
structure Reading where
  frames : List Frame := []
  awaited : Awaited := .value

namespace Reading

/-- An atom where a value is awaited. -/
def value (frames : List Frame) : Atom → Option Reading
  | .word w =>
    if w = "None" then some ⟨frames, .more .null⟩
    else if w = "True" then some ⟨frames, .more (.bool true)⟩
    else if w = "False" then some ⟨frames, .more (.bool false)⟩
    else if w = "GraphQLVariable" then some ⟨frames, .bracket⟩
    else none
  | .number n => some ⟨frames, .more (.int n)⟩
  | .text s => some ⟨frames, .more (.string s)⟩
  | .mark m =>
    if m = "-" then some ⟨frames, .negative⟩
    else if m = "[" then some ⟨.items [] :: frames, .value⟩
    else if m = "\x7b" then some ⟨frames, .key []⟩
    else
      match frames with
      | .items before :: rest => if m = "]" then some ⟨rest, .more (.list before.reverse)⟩ else none
      | _ => none

/-- A mark after a value. -/
def mark (v : Value) (m : String) : List Frame → Option Reading
  | .items before :: rest =>
    if m = "," then some ⟨.items (v :: before) :: rest, .value⟩
    else if m = "]" then some ⟨rest, .more (.list (v :: before).reverse)⟩
    else none
  | .entry before key :: rest =>
    if m = "," then some ⟨rest, .key (before.put key v)⟩
    else if m = "\x7d" then some ⟨rest, .more (.keyed (before.put key v))⟩
    else none
  | [] => none

/-- One atom read. -/
def step (r : Reading) (a : Atom) : Option Reading :=
  match r.awaited, a with
  | .value, a => value r.frames a
  | .negative, .number n => some ⟨r.frames, .more (.int (-n))⟩
  | .key before, .text s => some ⟨r.frames, .colon before s⟩
  | .key before, .mark m => if m = "\x7d" then some ⟨r.frames, .more (.keyed before)⟩ else none
  | .colon before key, .mark m => if m = ":" then some ⟨.entry before key :: r.frames, .value⟩ else none
  | .bracket, .mark m => if m = "(" then some ⟨r.frames, .name⟩ else none
  | .name, .text s => some ⟨r.frames, .close s⟩
  | .close name, .mark m => if m = ")" then some ⟨r.frames, .more (.var name)⟩ else none
  | .more v, .mark m => mark v m r.frames
  | _, _ => none

/-- Atoms read one after another. -/
def run (r : Reading) : List Atom → Option Reading
  | [] => some r
  | a :: rest => (r.step a).bind fun r' => r'.run rest

/-- The value that was read, if nothing else was begun. -/
def result? (r : Reading) : Option Value :=
  match r.frames, r.awaited with
  | [], .more v => some v
  | _, _ => none

theorem run_cons {r r' : Reading} {a : Atom} {rest : List Atom} (h : r.step a = some r') : r.run (a :: rest) = r'.run rest := by
  rw [run, h, Option.bind_some]

end Reading

/-- A text read as a value. -/
def read (text : String) : Option Value :=
  if text.toList.contains '\x00' then none
  else do
    let as ← atoms (text.toList.length + 1) text.toList
    let r ← Reading.run {} as
    r.result?

/-! ## Lexemes that are written -/

/-- The atom of a piece; a space has none. -/
def atom? : Lexeme → Option Atom
  | .word s => some (.word s)
  | .number n => some (.number n)
  | .text s => some (.text s)
  | .mark c => some (.mark c.toString)
  | .space => none

/-- The token of a piece has the atom of the piece. -/
theorem atomOf?_token {l : Lexeme} {t : Token} (ht : l.token? = some t) : atomOf? l.chars t = atom? l := by
  cases l with
  | number n =>
    cases ht
    have hdigits : (Nat.toDigits 10 n).all Char.isDigit = true :=
      List.all_eq_true.mpr fun d hd => Nat.isDigit_of_mem_toDigits (by decide) (by decide) hd
    simp [atomOf?, atom?, Lexeme.chars, hdigits, natOfDigits_toDigits]
  | text s =>
    cases ht
    rw [atomOf?, value?_literalString, String.ofList_toList]
    rfl
  | space => cases ht
  | _ =>
    cases ht
    rfl

/-- Pieces that are kept apart are cut into their atoms. -/
theorem atoms_of_apart {ls : List Lexeme} (hls : Apart ls) :
    atoms ((ls.flatMap Lexeme.chars).length + 1) (ls.flatMap Lexeme.chars) = some (ls.filterMap atom?) := by
  rw [atoms, hls.cut_chars, Option.bind_some]
  clear hls
  induction ls with
  | nil => rfl
  | cons l more ih =>
    cases ht : l.token? with
    | none =>
      cases l with
      | space => exact ih
      | _ => cases ht
    | some t =>
      obtain ⟨a, ha⟩ : ∃ a, atom? l = some a := by
        cases l with
        | space => cases ht
        | _ => exact ⟨_, rfl⟩
      have hfirst := (atomOf?_token ht).trans ha
      simp [ht, ha, hfirst, ih]

/-- No null character stands in pieces. -/
theorem null_notMem_of_apart {ls : List Lexeme} (hls : Apart ls) : '\x00' ∉ ls.flatMap Lexeme.chars := by
  intro h
  obtain ⟨l, hl, h⟩ := List.mem_flatMap.mp h
  have hfits := hls.fits l hl
  cases l with
  | word s => cases hfits.chars _ h
  | number n => cases Nat.isDigit_of_mem_toDigits (by decide) (by decide) h
  | text s =>
    simp only [Lexeme.chars, literalChars, List.mem_cons, List.mem_append, List.mem_flatMap, List.not_mem_nil,
      or_false] at h
    rcases h with h | ⟨c, hc, h⟩ | h
    · cases h
    · rcases literalChar_cases c with ⟨e, hchars, he, -⟩ | ⟨hchars, -⟩
      · rw [hchars] at h
        rcases List.mem_cons.mp h with h | h
        · cases h
        · rw [← List.mem_singleton.mp h] at he
          cases he
      · rw [hchars, List.mem_singleton] at h
        exact hfits (h ▸ hc)
    · cases h
  | mark c =>
    have hmarks : ∀ m ∈ partMarks, m ≠ '\x00' := forall_partMarks (by decide)
    exact hmarks c hfits (List.mem_singleton.mp h).symm
  | space => cases List.mem_singleton.mp h

/-- A text of pieces that are kept apart is read by running their atoms. -/
theorem read_of_apart {ls : List Lexeme} {text : String} {r : Reading} (htext : ls.flatMap Lexeme.chars = text.toList)
    (hls : Apart ls) (hrun : Reading.run {} (ls.filterMap atom?) = some r) : read text = r.result? := by
  have hnull : text.toList.contains '\x00' = false := by
    rw [← htext, Bool.eq_false_iff, ne_eq, List.contains_iff_mem]
    exact null_notMem_of_apart hls
  rw [read, hnull, ← htext, atoms_of_apart hls]
  simp [hrun]

end TypedOperations.Literal
