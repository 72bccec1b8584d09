import TypedOperations.Layout.Docstring
import TypedOperations.Proofs.Text.Lines

/-!
# Escaped descriptions

Escaping goes character by character but for runs of three quotes, which do not reach over a blank or a line break, so the lines
of a description are escaped one by one. A description without line breaks that does not begin with a blank becomes a docstring
of one line, which holds its text without the blanks at its end, escaped.
-/

namespace TypedOperations

variable {c : Char} {cs : List Char}

/-- What holds of no text, and of a text after three quotes, a backslash, or another character that no run of three quotes starts
with, holds of every text. -/
theorem escape_induction {P : List Char → Prop} (nil : P []) (quotes : ∀ rest, P rest → P ('\x22' :: '\x22' :: '\x22' :: rest))
    (slash : ∀ rest, P rest → P ('\x5c' :: rest))
    (other : ∀ c rest, c ≠ '\x5c' → (∀ more, c :: rest ≠ '\x22' :: '\x22' :: '\x22' :: more) → P rest → P (c :: rest))
    (cs : List Char) : P cs := by
  fun_induction escapeDocChars cs with
  | case1 => exact nil
  | case2 rest ih => exact quotes rest ih
  | case3 c rest _ hc ih =>
    rw [beq_iff_eq.mp hc]
    exact slash rest ih
  | case4 c rest hrun hc ih =>
    refine other c rest (by simpa using hc) (fun more h => ?_) ih
    obtain ⟨rfl, rfl⟩ := List.cons.inj h
    exact hrun more rfl rfl

@[simp] theorem escapeDocChars_nil : escapeDocChars [] = [] := rfl

theorem escapeDocChars_quotes (rest : List Char) :
    escapeDocChars ('\x22' :: '\x22' :: '\x22' :: rest) =
      '\x5c' :: '\x22' :: '\x5c' :: '\x22' :: '\x5c' :: '\x22' :: escapeDocChars rest := rfl

theorem escapeDocChars_slash (rest : List Char) :
    escapeDocChars ('\x5c' :: rest) = '\x5c' :: '\x5c' :: escapeDocChars rest := rfl

theorem escapeDocChars_other {rest : List Char} (hc : c ≠ '\x5c')
    (hrun : ∀ more, c :: rest ≠ '\x22' :: '\x22' :: '\x22' :: more) : escapeDocChars (c :: rest) = c :: escapeDocChars rest := by
  rw [escapeDocChars, if_neg (by simpa using hc)]
  rintro more rfl rfl
  exact hrun more rfl

theorem mem_escapeDocChars (hc : c ∈ escapeDocChars cs) : c ∈ cs ∨ c = '\x5c' ∨ c = '\x22' := by
  induction cs using escape_induction with
  | nil => cases hc
  | quotes rest ih =>
    simp only [escapeDocChars_quotes, List.mem_cons] at hc ⊢
    grind
  | slash rest ih =>
    simp only [escapeDocChars_slash, List.mem_cons] at hc ⊢
    grind
  | other d rest hd hrun ih =>
    simp only [escapeDocChars_other hd hrun, List.mem_cons] at hc ⊢
    grind

theorem escapeDocChars_ne_nil (hcs : cs ≠ []) : escapeDocChars cs ≠ [] := by
  cases cs using escape_induction with
  | nil => exact absurd rfl hcs
  | quotes rest => exact List.cons_ne_nil _ _
  | slash rest => simp [escapeDocChars_slash]
  | other d rest hd hrun => simp [escapeDocChars_other hd hrun]

/-! ## What escaping leaves as it is -/

/-- The character is neither a quote nor a backslash, so a docstring has it as it is. -/
def IsPlain (c : Char) : Prop :=
  c ≠ '\x22' ∧ c ≠ '\x5c'

theorem isPlain_of_isBlank (hc : Text.isBlank c = true) : IsPlain c := by
  constructor <;> rintro rfl <;> cases hc

section
variable {p l rest : List Char}

theorem escapeDocChars_cons (hc : IsPlain c) : escapeDocChars (c :: rest) = c :: escapeDocChars rest :=
  escapeDocChars_other hc.2 fun _ h => hc.1 (List.cons.inj h).1

/-- Escaping does not look past a character that is left as it is. -/
theorem escapeDocChars_append_cons (hc : IsPlain c) :
    escapeDocChars (l ++ c :: rest) = escapeDocChars l ++ c :: escapeDocChars rest := by
  induction l using escape_induction with
  | nil => exact escapeDocChars_cons hc
  | quotes more ih => simp [escapeDocChars_quotes, ih]
  | slash more ih => simp [escapeDocChars_slash, ih]
  | other d more hd hrun ih =>
    rw [List.cons_append, escapeDocChars_other hd, ih, escapeDocChars_other hd hrun, List.cons_append]
    -- a run of three quotes cannot reach the character
    intro tail htail
    match more with
    | [] => exact hc.1 (List.cons.inj (List.cons.inj htail).2).1
    | [e] => exact hc.1 (List.cons.inj (List.cons.inj (List.cons.inj htail).2).2).1
    | e :: f :: others =>
      obtain ⟨hquote, hrest⟩ := List.cons.inj htail
      obtain ⟨he, hothers⟩ := List.cons.inj hrest
      exact hrun others (by rw [hquote, he, (List.cons.inj hothers).1])

theorem escapeDocChars_plain_append (hp : ∀ c ∈ p, IsPlain c) : escapeDocChars (p ++ l) = p ++ escapeDocChars l := by
  induction p with
  | nil => rfl
  | cons c others ih =>
    rw [List.cons_append, escapeDocChars_cons (hp c List.mem_cons_self), ih fun d hd => hp d (List.mem_cons_of_mem c hd)]
    rfl

theorem escapeDocChars_append_plain (hp : ∀ c ∈ p, IsPlain c) : escapeDocChars (l ++ p) = escapeDocChars l ++ p := by
  cases p with
  | nil => rw [List.append_nil, List.append_nil]
  | cons c others =>
    have hothers : escapeDocChars others = others := by
      simpa using escapeDocChars_plain_append (l := []) fun d hd => hp d (List.mem_cons_of_mem c hd)
    rw [escapeDocChars_append_cons (hp c List.mem_cons_self), hothers]

/-- Parts between line ends are escaped one by one. -/
theorem escapeDocChars_intercalate (parts : List (List Char)) :
    escapeDocChars (['\n'].intercalate parts) = ['\n'].intercalate (parts.map escapeDocChars) := by
  have hfeed : IsPlain '\n' := isPlain_of_isBlank rfl
  induction parts with
  | nil => rfl
  | cons x others ih =>
    cases others with
    | nil => rw [List.intercalate_singleton, List.map_singleton, List.intercalate_singleton]
    | cons y more =>
      have hne : y :: more ≠ [] := List.cons_ne_nil y more
      have hmap : (y :: more).map escapeDocChars ≠ [] := List.cons_ne_nil _ _
      rw [List.intercalate_cons_of_ne_nil hne, List.append_assoc, List.singleton_append, escapeDocChars_append_cons hfeed, ih,
        List.map_cons (l := y :: more), List.intercalate_cons_of_ne_nil hmap, List.append_assoc, List.singleton_append]

end

/-- Escaping keeps the last character. -/
theorem getLast?_escapeDocChars (cs : List Char) : (escapeDocChars cs).getLast? = cs.getLast? := by
  induction cs using escape_induction with
  | nil => rfl
  | quotes rest ih => simp [escapeDocChars_quotes, List.getLast?_cons, ih]
  | slash rest ih => simp [escapeDocChars_slash, List.getLast?_cons, ih]
  | other d rest hd hrun ih => simp [escapeDocChars_other hd hrun, List.getLast?_cons, ih]

theorem head?_escapeDocChars (hc : c ≠ '\x5c') (h : (escapeDocChars cs).head? = some c) : cs.head? = some c := by
  induction cs using escape_induction with
  | nil => exact h
  | quotes rest => exact absurd (Option.some.inj h).symm hc
  | slash rest =>
    rw [escapeDocChars_slash] at h
    exact absurd (Option.some.inj h).symm hc
  | other d rest hd hrun =>
    rw [escapeDocChars_other hd hrun] at h
    exact h

/-- No run of three quotes starts with a character where none does in the text, if the text does not end in a quote. -/
theorem cons_escapeDocChars_ne_quotes {more rest tail : List Char}
    (hrun : ∀ tail, c :: more ≠ '\x22' :: '\x22' :: '\x22' :: tail) (hlast : (c :: more).getLast? ≠ some '\x22') :
    c :: (escapeDocChars more ++ rest) ≠ '\x22' :: '\x22' :: '\x22' :: tail := by
  have hquote : ('\x22' : Char) ≠ '\x5c' := by decide
  have hhead : ∀ {ds}, ds ≠ [] → (escapeDocChars ds ++ rest).head? = some '\x22' → ds.head? = some '\x22' := by
    intro ds hds h
    rw [List.head?_append, List.head?_eq_some_head (escapeDocChars_ne_nil hds), Option.some_or, ← List.head?_eq_some_head] at h
    exact head?_escapeDocChars hquote h
  intro h
  obtain ⟨rfl, htwo⟩ := List.cons.inj h
  have hmore : more ≠ [] := by
    rintro rfl
    exact hlast rfl
  obtain ⟨others, rfl⟩ := List.head?_eq_some_iff.mp (hhead hmore (by rw [htwo]; rfl))
  have hothers : others ≠ [] := by
    rintro rfl
    exact hlast rfl
  -- the second quote is not escaped either, so the third stands in the text
  have hrun' : ∀ tail, '\x22' :: others ≠ '\x22' :: '\x22' :: '\x22' :: tail := fun tail' h' =>
    hrun ('\x22' :: tail') (by rw [h'])
  rw [escapeDocChars_other hquote hrun', List.cons_append] at htwo
  have hone := (List.cons.inj htwo).2
  obtain ⟨others', rfl⟩ := List.head?_eq_some_iff.mp (hhead hothers (by rw [hone]; rfl))
  exact hrun others' rfl

theorem noBreak_escapeDocChars (hcs : ∀ c ∈ cs, Text.isLineBreak c = false) :
    ∀ c ∈ escapeDocChars cs, Text.isLineBreak c = false := by
  intro c hc
  rcases mem_escapeDocChars hc with hc | rfl | rfl
  · exact hcs c hc
  all_goals rfl

/-- Escaping leaves line breaks where they are. -/
theorem endsLine_escapeDocChars {mark rest : List Char} (h : Text.EndsLine mark rest) :
    Text.EndsLine mark (escapeDocChars rest) ∧
      ∀ l, escapeDocChars (l ++ (mark ++ rest)) = escapeDocChars l ++ (mark ++ escapeDocChars rest) := by
  have hfeed : IsPlain '\n' := isPlain_of_isBlank rfl
  cases h with
  | pair =>
    refine ⟨.pair _, fun l => ?_⟩
    rw [List.cons_append, escapeDocChars_append_cons (isPlain_of_isBlank rfl), List.singleton_append, escapeDocChars_cons hfeed]
    rfl
  | single hb hpair =>
    refine ⟨.single hb fun hreturn h => hpair hreturn (head?_escapeDocChars hfeed.2 h), fun l => ?_⟩
    exact escapeDocChars_append_cons (isPlain_of_isBlank (Text.isBlank_of_isLineBreak hb))

/-- Escaping does not reach over a line break, so the lines of a text are escaped one by one. -/
theorem splitLines_escapeDocChars (cs : List Char) :
    Text.splitLines (escapeDocChars cs) = (Text.splitLines cs).map escapeDocChars := by
  induction cs using Text.lines_induction with
  | last l hl =>
    by_cases hne : l = []
    · rw [hne]
      rfl
    · rw [Text.splitLines_of_noBreak hne hl, Text.splitLines_of_noBreak (escapeDocChars_ne_nil hne) (noBreak_escapeDocChars hl)]
      rfl
  | more l mark rest hl hmark ih =>
    obtain ⟨hescaped, happend⟩ := endsLine_escapeDocChars hmark
    rw [happend, Text.splitLines_endsLine (noBreak_escapeDocChars hl) hescaped, ih, Text.splitLines_endsLine hl hmark,
      List.map_cons]

/-- Blanks are not escaped, so trimming can come before escaping or after it. -/
theorem trimEnd_escapeDocChars (cs : List Char) : Text.trimEnd (escapeDocChars cs) = escapeDocChars (Text.trimEnd cs) := by
  obtain ⟨blanks, hsplit, hblanks⟩ := Text.exists_blanks cs
  have hlast : ∀ c ∈ (escapeDocChars (Text.trimEnd cs)).getLast?, Text.isBlank c = false := by
    rw [getLast?_escapeDocChars]
    exact fun c hc => Text.not_isBlank_getLast?_trimEnd hc
  calc Text.trimEnd (escapeDocChars cs)
      = Text.trimEnd (escapeDocChars (Text.trimEnd cs) ++ blanks) := by
        rw [← escapeDocChars_append_plain fun c hc => isPlain_of_isBlank (hblanks c hc), ← hsplit]
    _ = escapeDocChars (Text.trimEnd cs) := by rw [Text.trimEnd_append_blanks hblanks, Text.trimEnd_eq_self hlast]

/-- The characters of a docstring are those of its text, backslashes, quotes and a blank. -/
theorem mem_docChars (hc : c ∈ docChars cs) : c ∈ cs ∨ c ∈ ['\x5c', '\x22', ' '] := by
  have hescaped : c ∈ escapeDocChars cs ∨ c = ' ' := by
    rw [docChars] at hc
    split at hc
    · simpa using hc
    · exact Or.inl hc
  rcases hescaped with h | rfl
  · rcases mem_escapeDocChars h with h | rfl | rfl <;> simp_all
  · simp

theorem docChars_ne_nil (hcs : cs ≠ []) : docChars cs ≠ [] := by
  rw [docChars]
  split
  · simp
  · exact escapeDocChars_ne_nil hcs

/-- The one line of a docstring without line breaks. -/
theorem Docstring.ofText?_of_noBreak {text : String} (hne : Text.trim text.toList ≠ [])
    (hbreaks : ∀ c ∈ text.toList, Text.isLineBreak c = false) :
    Docstring.ofText? text = some ⟨String.ofList (docChars (Text.trim text.toList)), []⟩ := by
  have hdoc : ∀ c ∈ docChars (Text.trim text.toList), Text.isLineBreak c = false := by
    intro c hc
    rcases mem_docChars hc with hc | hc
    · exact hbreaks c (Text.mem_of_mem_trim hc)
    · simp only [List.mem_cons, List.not_mem_nil, or_false] at hc
      rcases hc with rfl | rfl | rfl <;> rfl
  rw [Docstring.ofText?, Text.splitLines_of_noBreak (docChars_ne_nil hne) hdoc]
  rfl

end TypedOperations
