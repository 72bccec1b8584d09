import TypedOperations.Layout.Docstring
import TypedOperations.Proofs.Layout.Writer
import TypedOperations.Proofs.Source.Token
import TypedOperations.Proofs.Text.Lines

/-!
# Literals in modules

A literal is one string of the text of a module, whatever follows it, and the string stands for the text that the literal was
written for. The literals of a text that is written over several lines, between brackets, are strings that stand one after
another for the parts of the text, and read one after another they give the text (`readLiterals_sourceLiterals`).
-/

namespace TypedOperations.Source

/-! ## What a string stands for -/

/-- The characters that escapes of one letter stand for. -/
def letterEscapes : List (Char × Char) :=
  [('n', '\n'), ('r', '\r'), ('t', '\t'), ('a', '\x07'), ('b', '\x08'), ('f', '\x0c'), ('v', '\x0b'), ('\x5c', '\x5c'),
   ('\x22', '\x22'), ('\x27', '\x27')]

/-- What a backslash before a character stands for. A backslash at the end of a line joins it to the next one, one before any
character without a meaning of its own stands for itself. Escapes that go on with digits or a name are not read. -/
def escapeValue (c : Char) : Option (List Char) :=
  match letterEscapes.lookup c with
  | some value => some [value]
  | none =>
    if c == '\n' then some []
    else if "01234567xuUN".toList.contains c then none
    else some ['\x5c', c]

/-- What stands between the quotes of a string, with its escapes read. Escapes that go on with digits or a name are not read. -/
def bodyValue : List Char → Option (List Char)
  | [] => some []
  | ['\x5c'] => none
  | '\x5c' :: c :: rest =>
    match escapeValue c, bodyValue rest with
    | some value, some more => some (value ++ more)
    | _, _ => none
  | c :: rest => (bodyValue rest).map (c :: ·)

/-- The text that a string stands for, if it is neither a byte string nor a format string. -/
def StringToken.value? (s : StringToken) : Option String :=
  if s.bytes || s.format then none
  else if s.raw then some (String.ofList s.body)
  else (bodyValue s.body).map String.ofList

/-- The text of the string that a text starts with, and what follows the string. -/
def readString (cs : List Char) : Option (String × List Char) :=
  match plainToken? cs with
  | some (.string s, rest) => s.value?.map (·, rest)
  | _ => none

/-- The text of a literal, which is one string and nothing else. -/
def readLiteral (literal : String) : Option String :=
  match readString literal.toList with
  | some (text, []) => some text
  | _ => none

/-- The text of literals one after another. -/
def readLiterals : List String → Option String
  | [] => some ""
  | literal :: rest =>
    match readLiteral literal, readLiterals rest with
    | some first, some more => some (first ++ more)
    | _, _ => none

/-- The literals that are written for a text. -/
def sourceLiterals (text : String) : List String :=
  Writer.sourceLines.go (Text.splitOn '\n' text.toList)

/-- A text is written as its literals, each on a line of its own. -/
theorem sourceLines_eq (w : Writer) (text : String) : w.sourceLines text = w.lines (sourceLiterals text) := rfl

/-! ## One literal -/

/-- A character stands in a literal as a backslash with the character that is read as it, or as itself, if it means nothing
there. -/
theorem literalChar_cases (c : Char) :
    (∃ e, literalChar c = ['\x5c', e] ∧ escapeValue e = some [c] ∧ e ≠ '\n' ∧ e ≠ '\r') ∨
      (literalChar c = [c] ∧ c ≠ '\x5c' ∧ c ≠ '\x22' ∧ c ≠ '\n' ∧ c ≠ '\r') := by
  by_cases h1 : c = '\x5c'
  · subst h1
    exact Or.inl ⟨'\x5c', rfl, rfl, by decide, by decide⟩
  by_cases h2 : c = '\x22'
  · subst h2
    exact Or.inl ⟨'\x22', rfl, rfl, by decide, by decide⟩
  by_cases h3 : c = '\n'
  · subst h3
    exact Or.inl ⟨'n', rfl, rfl, by decide, by decide⟩
  by_cases h4 : c = '\r'
  · subst h4
    exact Or.inl ⟨'r', rfl, rfl, by decide, by decide⟩
  by_cases h5 : c = '\t'
  · subst h5
    exact Or.inl ⟨'t', rfl, rfl, by decide, by decide⟩
  exact Or.inr ⟨by simp [literalChar, h1, h2, h3, h4, h5], h1, h2, h3, h4⟩

/-- The string that a literal is. -/
def literalString (cs : List Char) : StringToken :=
  ⟨false, false, false, cs.flatMap literalChar⟩

theorem bodyValue_literal (cs : List Char) : bodyValue (cs.flatMap literalChar) = some cs := by
  induction cs with
  | nil => rfl
  | cons c rest ih =>
    rw [List.flatMap_cons]
    rcases literalChar_cases c with ⟨e, hchars, he, -⟩ | ⟨hchars, hslash, -⟩
    · rw [hchars, List.cons_append, List.cons_append, List.nil_append, bodyValue, he, ih]
      rfl
    · rw [hchars, List.singleton_append, bodyValue, ih]
      · rfl
      · exact fun h => absurd h hslash
      · exact fun _ _ h => absurd h hslash

theorem value?_literalString (cs : List Char) : (literalString cs).value? = some (String.ofList cs) := by
  rw [StringToken.value?, literalString]
  simp [bodyValue_literal]

theorem mapM_value?_literalString (parts : List (List Char)) :
    (parts.map literalString).mapM StringToken.value? = some (parts.map String.ofList) := by
  induction parts with
  | nil => rfl
  | cons cs others ih =>
    rw [List.map_cons, List.mapM_cons, value?_literalString, ih]
    rfl

/-- A string is read to the quote at the end of the literal. -/
theorem shortString_literal (body cs rest : List Char) :
    shortString '\x22' body (cs.flatMap literalChar ++ '\x22' :: rest) =
      some (body.reverse ++ cs.flatMap literalChar, rest) := by
  induction cs generalizing body with
  | nil => simp [shortString]
  | cons c more ih =>
    rw [List.flatMap_cons]
    rcases literalChar_cases c with ⟨e, hchars, -⟩ | ⟨hchars, hslash, hquote, hfeed, -⟩
    · have hescape : ['\x5c', e] ++ more.flatMap literalChar = '\x5c' :: e :: more.flatMap literalChar := rfl
      rw [hchars, hescape, List.cons_append, List.cons_append, shortString, ih]
      simp
    · rw [hchars, List.singleton_append, List.cons_append, shortString]
      · simp [hquote, hfeed, ih]
      · exact fun _ _ h => absurd h hslash

/-- A string that does not start with two more quotes ends on its line. -/
theorem stringBody_of_short {quote : Char} {cs : List Char} (hcs : ∀ rest, cs ≠ quote :: quote :: rest) :
    stringBody quote cs = shortString quote [] cs := by
  match cs with
  | [] => rfl
  | [_] => rfl
  | a :: b :: rest =>
    rw [stringBody, if_neg]
    intro h
    rw [Bool.and_eq_true, beq_iff_eq, beq_iff_eq] at h
    exact hcs rest (by rw [h.1, h.2])

/-- A literal is one string, if no quote follows it. -/
theorem plainToken?_literal (cs : List Char) {rest : List Char} (hrest : rest.head? ≠ some '\x22') :
    plainToken? (literalChars cs ++ rest) = some (.string (literalString cs), rest) := by
  have hshort : ∀ more, cs.flatMap literalChar ++ '\x22' :: rest ≠ '\x22' :: '\x22' :: more := by
    intro more h
    cases cs with
    | nil =>
      cases h
      exact hrest rfl
    | cons c others =>
      rw [List.flatMap_cons] at h
      rcases literalChar_cases c with ⟨e, hchars, -⟩ | ⟨hchars, -, hquote, -⟩
      · rw [hchars] at h
        cases h
      · rw [hchars] at h
        exact hquote (List.cons.inj h).1
  have hstart : stringAt? (literalChars cs ++ rest) = some ("", '\x22', cs.flatMap literalChar ++ '\x22' :: rest) := by
    simp [literalChars, stringAt?, isQuote]
  have hbody := (stringBody_of_short hshort).trans (shortString_literal [] cs rest)
  simp only [plainToken?, hstart, hbody]
  rfl

/-- No line end stands in a literal. -/
theorem lineEnd_notMem_literal (cs : List Char) : '\n' ∉ literalChars cs ∧ '\r' ∉ literalChars cs := by
  have hchar : ∀ c, '\n' ∉ literalChar c ∧ '\r' ∉ literalChar c := by
    intro c
    rcases literalChar_cases c with ⟨e, hchars, -, hfeed, hreturn⟩ | ⟨hchars, -, -, hfeed, hreturn⟩
    · simp [hchars, hfeed.symm, hreturn.symm]
    · simp [hchars, hfeed.symm, hreturn.symm]
  simp [literalChars, hchar]

theorem readString_literal (cs : List Char) {rest : List Char} (hrest : rest.head? ≠ some '\x22') :
    readString (literalChars cs ++ rest) = some (String.ofList cs, rest) := by
  rw [readString, plainToken?_literal cs hrest]
  simp [value?_literalString]

theorem readString_stringLiteral (text : String) : readString (stringLiteral text).toList = some (text, []) := by
  have hread := readString_literal text.toList (show [].head? ≠ some '\x22' by simp)
  rwa [List.append_nil, String.ofList_toList, ← String.toList_ofList (l := literalChars text.toList)] at hread

/-! ## Literals over several lines -/

section
variable {x : Scan} {c : Char} {rest more : List Char} (fuel : Nat)

/-- The character starts a token, whatever comes before it on its line. -/
def StartsToken (c : Char) : Prop :=
  c ∉ [' ', '\t', '\x0c', '#', '\n', '\x5c']

instance (c : Char) : Decidable (StartsToken c) := inferInstanceAs (Decidable (c ∉ _))

theorem scanLine_plainToken {t : Token} (hc : StartsToken c) (htoken : plainToken? (c :: rest) = some (t, more)) :
    scanLine (fuel + 1) x (c :: rest) = scanLine fuel (x.push t) more := by
  simp only [StartsToken, List.mem_cons, List.not_mem_nil, or_false, not_or] at hc
  obtain ⟨h1, h2, h3, h4, h5, h6⟩ := hc
  simp [scanLine, h1, h2, h3, h4, h5, h6, htoken]

theorem scanLine_mark {mark : String} {x' : Scan} (hc : StartsToken c) (hword : isWordChar c = false)
    (hquote : isQuote c = false) (htoken : plainToken? (c :: rest) = none) (hmark : markAt? (c :: rest) = some (mark, more))
    (hx : x.pushMark mark = some x') : scanLine (fuel + 1) x (c :: rest) = scanLine fuel x' more := by
  simp only [StartsToken, List.mem_cons, List.not_mem_nil, or_false, not_or] at hc
  obtain ⟨h1, h2, h3, h4, h5, h6⟩ := hc
  simp [scanLine, h1, h2, h3, h4, h5, h6, htoken, hword, hquote, hmark, hx]

theorem scanLine_literal (cs : List Char) (hrest : rest.head? ≠ some '\x22') :
    scanLine (fuel + 1) x (literalChars cs ++ rest) = scanLine fuel (x.push (.string (literalString cs))) rest :=
  scanLine_plainToken fuel (by decide) (plainToken?_literal cs hrest)

/-- Between brackets a line goes on. -/
theorem scanLine_lineEnd (hx : x.brackets ≠ []) : scanLine (fuel + 1) x ('\n' :: rest) = scanLines fuel x rest := by
  simp [scanLine, hx]

theorem measure_start (w : Width) (hc : StartsToken c) : measure w 0 (c :: rest) = some (w, c :: rest) := by
  simp only [StartsToken, List.mem_cons, List.not_mem_nil, or_false, not_or] at hc
  obtain ⟨h1, h2, h3, h4, h5, h6⟩ := hc
  unfold measure
  split <;> simp_all

theorem measure_spaces (w : Width) (n : Nat) (hc : StartsToken c) :
    measure w 0 (List.replicate n ' ' ++ c :: rest) = some (⟨w.wide + n, w.narrow + n⟩, c :: rest) := by
  induction n generalizing w with
  | zero => exact measure_start w hc
  | succ n ih =>
    rw [List.replicate_succ, List.cons_append, measure, ih]
    simp only [Option.some.injEq, Prod.mk.injEq, Width.mk.injEq, and_true]
    omega

/-- Between brackets the spaces before a line mean nothing. -/
theorem scanLines_spaces (n : Nat) (hx : x.brackets ≠ []) (hc : StartsToken c) :
    scanLines (fuel + 1) x (List.replicate n ' ' ++ c :: rest) = scanLine fuel x (c :: rest) := by
  have hmeasure : measure ⟨0, 0⟩ 0 (List.replicate n ' ' ++ c :: rest) = some (⟨0 + n, 0 + n⟩, c :: rest) :=
    measure_spaces ⟨0, 0⟩ n hc
  simp only [StartsToken, List.mem_cons, List.not_mem_nil, or_false, not_or] at hc
  simp [scanLines, hmeasure, hx, hc]

theorem scanLines_blank : scanLines (fuel + 1) x ('\n' :: rest) = scanLines fuel x rest := by
  simp [scanLines, measure, skipComment]

theorem scanLines_blanks (k : Nat) :
    scanLines (fuel + k) x (List.replicate k '\n' ++ rest) = scanLines fuel x rest := by
  induction k with
  | zero => rfl
  | succ k ih => rw [List.replicate_succ, List.cons_append, ← Nat.add_assoc, scanLines_blank, ih]

/-- Lines of literals, each after so many spaces. -/
def literalLines (n : Nat) (texts : List (List Char)) : List Char :=
  texts.flatMap (List.replicate n ' ' ++ literalChars · ++ ['\n'])

theorem literalLines_cons (n : Nat) (cs : List Char) (others : List (List Char)) :
    literalLines n (cs :: others) = List.replicate n ' ' ++ (literalChars cs ++ '\n' :: literalLines n others) := by
  simp [literalLines]

theorem three_mul_length_le (n : Nat) (texts : List (List Char)) : 3 * texts.length ≤ (literalLines n texts).length := by
  induction texts with
  | nil => exact Nat.le_refl _
  | cons cs others ih =>
    simp only [literalLines_cons, literalChars, List.length_append, List.length_cons, List.length_nil]
    omega

/-- Lines of literals between brackets are strings one after another. -/
theorem scanLines_literals (n : Nat) (hx : x.brackets ≠ []) (texts : List (List Char)) :
    scanLines (fuel + 3 * texts.length) x (literalLines n texts ++ rest) =
      scanLines fuel { x with tokens := (texts.map fun cs => Token.string (literalString cs)).reverse ++ x.tokens } rest := by
  induction texts generalizing x with
  | nil => rfl
  | cons cs others ih =>
    have hpushed : (x.push (.string (literalString cs))).brackets ≠ [] := hx
    calc
      scanLines (fuel + 3 * (others.length + 1)) x (literalLines n (cs :: others) ++ rest)
        = scanLines (fuel + 3 * others.length + 2 + 1) x
            (List.replicate n ' ' ++ (literalChars cs ++ '\n' :: (literalLines n others ++ rest))) := by
          rw [literalLines_cons, Nat.mul_add, Nat.mul_one, ← Nat.add_assoc]
          simp
      _ = scanLine (fuel + 3 * others.length + 1 + 1) x (literalChars cs ++ '\n' :: (literalLines n others ++ rest)) :=
          scanLines_spaces _ n hx (by decide)
      _ = scanLine (fuel + 3 * others.length + 1) (x.push (.string (literalString cs)))
            ('\n' :: (literalLines n others ++ rest)) :=
          scanLine_literal _ cs (by simp)
      _ = scanLines (fuel + 3 * others.length) (x.push (.string (literalString cs))) (literalLines n others ++ rest) :=
          scanLine_lineEnd _ hpushed
      _ = _ := by
          rw [ih hpushed]
          simp [Scan.push]

theorem scanLines_open : scanLines (fuel + 3) {} ('(' :: '\n' :: rest) =
    scanLines fuel { tokens := [.mark "("], brackets := [")"] } rest := by
  have hends : EndsMark '(' ('\n' :: rest) := by simp [EndsMark]
  have htoken : plainToken? ('(' :: '\n' :: rest) = none := plainToken?_mark (by decide) hends
  have hmark : markAt? ('(' :: '\n' :: rest) = some ("(", '\n' :: rest) := markAt?_mark (by decide) hends
  have hpushed : Scan.pushMark {} "(" = some { tokens := [.mark "("], brackets := [")"] } := by
    rfl
  have hmeasure : measure ⟨0, 0⟩ 0 ('(' :: '\n' :: rest) = some (⟨0, 0⟩, '(' :: '\n' :: rest) := measure_start _ (by decide)
  have harrange : Scan.arrange {} ⟨0, 0⟩ = some {} := by rfl
  calc
    scanLines (fuel + 3) {} ('(' :: '\n' :: rest) = scanLine (fuel + 1 + 1) {} ('(' :: '\n' :: rest) := by
      simp [scanLines, hmeasure, harrange]
    _ = scanLine (fuel + 1) { tokens := [.mark "("], brackets := [")"] } ('\n' :: rest) :=
      scanLine_mark _ (by decide) (by decide) (by decide) htoken hmark hpushed
    _ = _ := scanLine_lineEnd _ (by simp)

theorem scanLines_close (ts : List Token) :
    scanLines (fuel + 4) { tokens := ts, brackets := [")"] } [')', '\n'] = some (ts.reverse ++ [.mark ")", .newline]) := by
  have hstart : scanLines (fuel + 4) { tokens := ts, brackets := [")"] } [')', '\n'] =
      scanLine (fuel + 3) { tokens := ts, brackets := [")"] } [')', '\n'] := scanLines_spaces _ 0 (by simp) (by decide)
  have hmark : scanLine (fuel + 3) { tokens := ts, brackets := [")"] } [')', '\n'] =
      scanLine (fuel + 2) { tokens := .mark ")" :: ts } ['\n'] :=
    scanLine_mark _ (by decide) (by decide) (by decide) (by rfl) (by rfl) (by rfl)
  rw [hstart, hmark]
  simp [scanLine, scanLines, measure, Scan.push, Scan.dedent]

theorem noReturn_literalLines (n : Nat) (texts : List (List Char)) : '\r' ∉ literalLines n texts := by
  simp [literalLines, (lineEnd_notMem_literal _).2]

/-- Lines of literals between two lines with brackets, after any number of empty lines, are the strings of the literals. -/
theorem tokens_literalLines (k n : Nat) (texts : List (List Char)) (block : String)
    (hblock : block.toList = '(' :: '\n' :: (List.replicate k '\n' ++ (literalLines n texts ++ [')']))) :
    tokens block = some (.mark "(" :: texts.map (fun cs => .string (literalString cs)) ++ [.mark ")", .newline]) := by
  have hreturn : '\r' ∉ block.toList := by
    simp [hblock, noReturn_literalLines]
  have hlast : block.toList.getLast? = some ')' := by
    simp [hblock, List.getLast?_cons]
  have hfuel : ∃ fuel, 2 * (block.toList ++ ['\n']).length + 2 = fuel + 4 + 3 * texts.length + k + 3 := by
    have hlength := three_mul_length_le n texts
    refine ⟨2 * (block.toList ++ ['\n']).length + 2 - (4 + 3 * texts.length + k + 3), ?_⟩
    simp only [hblock, List.length_append, List.length_cons, List.length_replicate, List.length_nil]
    omega
  obtain ⟨fuel, hfuel⟩ := hfuel
  have htext : block.toList ++ ['\n'] =
      '(' :: '\n' :: (List.replicate k '\n' ++ (literalLines n texts ++ [')', '\n'])) := by
    simp [hblock]
  rw [tokens, Text.unifyLineEnds_of_noReturn hreturn]
  simp only [hlast]
  rw [if_neg (by decide), hfuel, htext, scanLines_open, scanLines_blanks, scanLines_literals _ n (by simp), scanLines_close]
  simp

end

/-! ## The literals of a text -/

theorem splitOnFrom_ne_nil (sep : Char) (part cs : List Char) : Text.splitOnFrom sep part cs ≠ [] := by
  fun_induction Text.splitOnFrom sep part cs with
  | case1 => exact List.cons_ne_nil _ _
  | case2 => exact List.cons_ne_nil _ _
  | case3 part c rest _ ih => exact ih

/-- The parts of a text between separators, with the separators between them, are the text. -/
theorem intercalate_splitOn (sep : Char) (cs : List Char) : [sep].intercalate (Text.splitOn sep cs) = cs := by
  -- a part that was begun stands before what is left
  have hfrom : ∀ part : List Char, [sep].intercalate (Text.splitOnFrom sep part cs) = part.reverse ++ cs := by
    intro part
    fun_induction Text.splitOnFrom sep part cs with
    | case1 part => simp
    | case2 part c rest hc ih =>
      rw [List.intercalate_cons_of_ne_nil (splitOnFrom_ne_nil sep [] rest), ih, beq_iff_eq.mp hc]
      simp
    | case3 part c rest _ ih => simpa using ih
  exact hfrom []

/-- The parts of a text that its literals are written for: its lines, all but the last with their line feeds. -/
def literalParts : List (List Char) → List (List Char)
  | [] => []
  | [l] => [l]
  | l :: rest => (l ++ ['\n']) :: literalParts rest

theorem sourceLines_go_eq (lines : List (List Char)) :
    Writer.sourceLines.go lines = (literalParts lines).map fun cs => String.ofList (literalChars cs) := by
  fun_induction literalParts lines with
  | case1 => rfl
  | case2 l => simp [Writer.sourceLines.go, stringLiteral]
  | case3 l rest hrest ih => rw [Writer.sourceLines.go, ih, List.map_cons, stringLiteral, String.toList_ofList]; exact hrest

theorem flatten_literalParts (lines : List (List Char)) : (literalParts lines).flatten = ['\n'].intercalate lines := by
  fun_induction literalParts lines with
  | case1 => rfl
  | case2 l => simp
  | case3 l rest hrest ih =>
    have hne : rest ≠ [] := fun h => hrest h
    rw [List.flatten_cons, ih, List.intercalate_cons_of_ne_nil hne]

/-- The literals that are written for a text are read back as the text. -/
theorem readLiterals_sourceLiterals (text : String) : readLiterals (sourceLiterals text) = some text := by
  have hparts : ∀ parts : List (List Char),
      readLiterals (parts.map fun cs => String.ofList (literalChars cs)) = some (String.ofList parts.flatten) := by
    intro parts
    induction parts with
    | nil => rfl
    | cons cs others ih =>
      have hfirst := readString_stringLiteral (String.ofList cs)
      rw [stringLiteral, String.toList_ofList, String.toList_ofList] at hfirst
      simp [readLiterals, readLiteral, hfirst, ih]
  rw [sourceLiterals, sourceLines_go_eq, hparts, flatten_literalParts, intercalate_splitOn, String.ofList_toList]

theorem literalParts_ne_nil {lines : List (List Char)} (hlines : lines ≠ []) : literalParts lines ≠ [] := by
  fun_cases literalParts lines with
  | case1 => exact absurd rfl hlines
  | case2 => exact List.cons_ne_nil _ _
  | case3 => exact List.cons_ne_nil _ _

/-- Lines with line ends between them, and one after the last. -/
theorem intercalate_lineEnd {lines : List (List Char)} (hlines : lines ≠ []) (rest : List Char) :
    ['\n'].intercalate lines ++ '\n' :: rest = lines.flatMap (· ++ ['\n']) ++ rest := by
  induction lines with
  | nil => exact absurd rfl hlines
  | cons l others ih =>
    by_cases hothers : others = []
    · simp [hothers]
    · rw [List.intercalate_cons_of_ne_nil hothers, List.append_assoc, ih hothers]
      simp

/-- The text that literals for parts take at the indentation of a writer, between two lines with brackets. -/
theorem toList_bracketed (w : Writer) {parts : List (List Char)} (hparts : parts ≠ []) :
    ("(\n" ++ (w.gap ++ "\n".intercalate (parts.map fun cs => w.indentation ++ String.ofList (literalChars cs))) ++
        "\n)").toList =
      '(' :: '\n' :: (List.replicate w.gap.toList.length '\n' ++ (literalLines (4 * w.level) parts ++ [')'])) := by
  have hgap : w.gap.toList = List.replicate w.gap.toList.length '\n' := by
    rw [Writer.gap]
    split
    · rfl
    · rw [Writer.toList_repeated_lineEnd, List.length_replicate]
  have hjoined : ("\n".intercalate (parts.map fun cs => w.indentation ++ String.ofList (literalChars cs))).toList =
      ['\n'].intercalate (parts.map fun cs => List.replicate (4 * w.level) ' ' ++ literalChars cs) := by
    rw [String.toList_intercalate]
    simp [Writer.toList_indentation, Function.comp_def]
  have hlines : literalLines (4 * w.level) parts =
      (parts.map fun cs => List.replicate (4 * w.level) ' ' ++ literalChars cs).flatMap (· ++ ['\n']) := by
    rw [List.flatMap_map]
    rfl
  have hopen : "(\n".toList = ['(', '\n'] := rfl
  have hclose : "\n)".toList = ['\n', ')'] := rfl
  rw [String.toList_append, String.toList_append, String.toList_append, hopen, hclose, hjoined, hlines, ← hgap,
    ← intercalate_lineEnd (by simpa using hparts)]
  simp

/-- A literal is read back as its text: it is one string, which ends with it, has no line end in it and stands for the text. The
literals for a text that is written over several lines, at any indentation, are strings for parts that make up the text. -/
theorem literals_read_back (text : String) :
    (readString (stringLiteral text).toList = some (text, []) ∧ '\n' ∉ (stringLiteral text).toList ∧
      '\r' ∉ (stringLiteral text).toList) ∧
    ∀ w : Writer, ∃ (parts : List String) (strings : List StringToken) (added : String),
      (w.sourceLines text).body = w.body ++ added ∧
      added = w.gap ++ "\n".intercalate (parts.map fun part => w.indentation ++ stringLiteral part) ∧
      tokens ("(\n" ++ added ++ "\n)") = some (.mark "(" :: strings.map .string ++ [.mark ")", .newline]) ∧
      strings.mapM StringToken.value? = some parts ∧ String.join parts = text := by
  have hliteral : (stringLiteral text).toList = literalChars text.toList := String.toList_ofList
  have hends := lineEnd_notMem_literal text.toList
  refine ⟨?_, fun w => ?_⟩
  · exact ⟨readString_stringLiteral text, hliteral ▸ hends⟩
  · let parts := literalParts (Text.splitOn '\n' text.toList)
    have hparts : parts ≠ [] := literalParts_ne_nil (splitOnFrom_ne_nil '\n' [] text.toList)
    have hliterals : sourceLiterals text = parts.map fun cs => String.ofList (literalChars cs) := sourceLines_go_eq _
    have hwritten : (w.sourceLines text).body = w.body ++
        (w.gap ++ "\n".intercalate (parts.map fun cs => w.indentation ++ String.ofList (literalChars cs))) := by
      rw [sourceLines_eq, hliterals, Writer.body_lines w (by simpa using hparts) (by simp [literalChars]), List.map_map]
      rfl
    refine ⟨parts.map String.ofList, parts.map literalString, _, hwritten, ?_, ?_, ?_, ?_⟩
    · simp [stringLiteral, Function.comp_def]
    · rw [tokens_literalLines _ _ parts _ (toList_bracketed w hparts), List.map_map]
      rfl
    · exact mapM_value?_literalString parts
    · rw [← String.toList_inj, String.toList_join, List.flatMap_map]
      simp only [String.toList_ofList, List.flatMap_id']
      rw [flatten_literalParts, intercalate_splitOn]

end TypedOperations.Source
