import TypedOperations.Layout.Step
import TypedOperations.Proofs.Layout.Docstring
import TypedOperations.Proofs.Layout.LineTree
import TypedOperations.Proofs.Layout.Writer
import TypedOperations.Proofs.Source.Strings

/-!
# Descriptions in modules

A description stays inside the docstring or the comment that it becomes, whatever its characters are. The docstring is one
string over any number of lines: what stands between its quotes is an escaped text that does not end in a quote, so the first
three quotes that are not escaped are those that close it (`longString_escapeDocChars`). The escaped text is that of the lines of
the description, each after the indentation (`exists_docstring`), so these can be read off the string. A comment has one line for
every line of its text, and no line end in any of them.
-/

namespace TypedOperations

/-- The quotes around a string over any number of lines. -/
def longQuotes : List Char := ['\x22', '\x22', '\x22']

/-! ## Escaped texts between quotes -/

namespace Source

variable {a quote : Char} {body cs : List Char}

/-- A character that neither escapes nor starts the closing quotes belongs to the string. -/
theorem longString_cons (ha : a ≠ '\x5c') (hend : ∀ rest, a :: cs ≠ quote :: quote :: quote :: rest) :
    longString quote body (a :: cs) = longString quote (a :: body) cs := by
  match cs with
  | [] => simp [longString]
  | [b] => simp [longString, ha]
  | b :: c :: rest =>
    rw [longString, if_neg]
    · intro h
      simp only [Bool.and_eq_true, beq_iff_eq] at h
      exact hend rest (by rw [h.1.1, h.1.2, h.2])
    · exact fun h => absurd h ha

/-- A string is read to the end of an escaped text that does not end in a quote. -/
theorem longString_escapeDocChars (cs rest : List Char) (hlast : cs.getLast? ≠ some '\x22') :
    longString '\x22' body (escapeDocChars cs ++ (longQuotes ++ rest)) = some (body.reverse ++ escapeDocChars cs, rest) := by
  have htail : ∀ {c more}, (c :: more).getLast? ≠ some '\x22' → more.getLast? ≠ some '\x22' := by
    intro c more h hmore
    rw [List.getLast?_cons, hmore] at h
    exact h rfl
  induction cs using escape_induction generalizing body with
  | nil => simp [longQuotes, longString]
  | quotes more ih =>
    have hmore := htail (htail (htail hlast))
    rw [escapeDocChars_quotes]
    simp [longString, ih hmore]
  | slash more ih =>
    rw [escapeDocChars_slash]
    simp [longString, ih (htail hlast)]
  | other c more hc hrun ih =>
    rw [escapeDocChars_other hc hrun, List.cons_append, longString_cons hc, ih (htail hlast)]
    · simp
    · exact fun tail => cons_escapeDocChars_ne_quotes hrun hlast

/-- An escaped text stands for the text. -/
theorem bodyValue_escapeDocChars (cs : List Char) : bodyValue (escapeDocChars cs) = some cs := by
  have hquote : escapeValue '\x22' = some ['\x22'] := rfl
  have hslash : escapeValue '\x5c' = some ['\x5c'] := rfl
  induction cs using escape_induction with
  | nil => rfl
  | quotes rest ih =>
    rw [escapeDocChars_quotes]
    simp [bodyValue, hquote, ih]
  | slash rest ih =>
    rw [escapeDocChars_slash]
    simp [bodyValue, hslash, ih]
  | other c rest hc hrun ih =>
    rw [escapeDocChars_other hc hrun, bodyValue, ih]
    · rfl
    · exact fun h => absurd h hc
    · exact fun _ _ h => absurd h hc

/-- An escaped text that does not end in a quote is one string between its quotes, whatever follows. -/
theorem plainToken?_escapeDocChars (cs rest : List Char) (hlast : cs.getLast? ≠ some '\x22') :
    plainToken? (longQuotes ++ (escapeDocChars cs ++ (longQuotes ++ rest))) =
      some (.string ⟨false, false, false, escapeDocChars cs⟩, rest) := by
  have hstart : stringAt? (longQuotes ++ (escapeDocChars cs ++ (longQuotes ++ rest))) =
      some ("", '\x22', '\x22' :: '\x22' :: (escapeDocChars cs ++ (longQuotes ++ rest))) := by
    simp [longQuotes, stringAt?, isQuote]
  have hbody : stringBody '\x22' ('\x22' :: '\x22' :: (escapeDocChars cs ++ (longQuotes ++ rest))) =
      some (escapeDocChars cs, rest) := by
    rw [stringBody, if_pos (by rfl), longString_escapeDocChars cs rest hlast]
    rfl
  simp only [plainToken?, hstart, hbody]
  rfl

end Source

/-! ## Lines after an indentation -/

/-- A line of a docstring after the first, without the blanks at its end. -/
def placed (indent l : List Char) : List Char :=
  if Text.trimEnd l = [] then [] else indent ++ Text.trimEnd l

/-- The text of a docstring with the lines, as it stands between the quotes but for its escapes: a blank after a final quote, or
the closing quotes on a line of their own. -/
def docValue (indent : List Char) : List (List Char) → List Char
  | [] => []
  | [l] => if l.getLast? = some '\x22' then l ++ [' '] else l
  | first :: rest => ['\n'].intercalate (first :: (rest.map (placed indent) ++ [indent]))

/-- The line without its indentation; none if it does not start with it. A line without characters has no indentation. -/
def unindented? (indent l : List Char) : Option (List Char) :=
  if l = [] then some []
  else if indent.isPrefixOf l then some (l.drop indent.length)
  else none

/-- The lines of the text of a docstring without their indentation. The last line of several has nothing else. -/
def docLines (indent value : List Char) : Option (List (List Char)) :=
  match value.splitOn '\n' with
  | [] => none
  | [l] => some [l]
  | first :: rest => if rest.getLast? = some indent then (rest.dropLast.mapM (unindented? indent)).map (first :: ·) else none

theorem unindented?_placed (indent l : List Char) : unindented? indent (placed indent l) = some (Text.trimEnd l) := by
  rw [placed]
  split
  · next hl => simp [unindented?, hl]
  · next hl => simp [unindented?, hl]

theorem mapM_unindented?_placed (indent : List Char) (lines : List (List Char)) :
    (lines.map (placed indent)).mapM (unindented? indent) = some (lines.map Text.trimEnd) := by
  induction lines with
  | nil => rfl
  | cons l others ih =>
    rw [List.map_cons, List.mapM_cons, unindented?_placed, ih]
    rfl

section
variable {indent : List Char} {lines : List (List Char)}

theorem docLines_several {value first : List Char} (hsplit : value.splitOn '\n' = first :: (lines ++ [indent])) :
    docLines indent value = (lines.mapM (unindented? indent)).map (first :: ·) := by
  have hlast : (lines ++ [indent]).getLast? = some indent := List.getLast?_concat
  have hdrop : (lines ++ [indent]).dropLast = lines := List.dropLast_concat
  rw [docLines, hsplit]
  cases lines with
  | nil => simp
  | cons l more => exact (if_pos hlast).trans (by rw [hdrop])

/-- The lines of a docstring can be read off its text, up to the blanks at their ends. -/
theorem docLines_docValue (hlines : lines ≠ []) (hindent : '\n' ∉ indent) (hfeed : ∀ l ∈ lines, '\n' ∉ l) :
    (docLines indent (docValue indent lines)).map (·.map Text.trimEnd) = some (lines.map Text.trimEnd) := by
  cases lines with
  | nil => exact absurd rfl hlines
  | cons first others =>
    cases others with
    | nil =>
      have hl : '\n' ∉ first := hfeed first List.mem_cons_self
      have hone : ∀ {l' : List Char}, '\n' ∉ l' → docLines indent l' = some [l'] := by
        intro l' hl'
        have hsplit : l'.splitOn '\n' = [l'] := by
          simpa using List.splitOn_intercalate '\n' (by simpa using hl' : ∀ m ∈ [l'], '\n' ∉ m) (by simp)
        rw [docLines, hsplit]
      rw [docValue]
      split
      · rw [hone (by simpa using hl), Option.map_some, List.map_singleton, List.map_singleton,
          Text.trimEnd_append_blanks (by simp [Text.isBlank])]
      · rw [hone hl]
        rfl
    | cons second rest =>
      have hplaced : ∀ l ∈ second :: rest, '\n' ∉ placed indent l := by
        intro l hl
        rw [placed]
        split
        · exact List.not_mem_nil
        · exact fun h => (List.mem_append.mp h).elim hindent fun h =>
            hfeed l (List.mem_cons_of_mem first hl) (Text.mem_of_mem_trimEnd h)
      have hparts : ∀ part ∈ first :: ((second :: rest).map (placed indent) ++ [indent]), '\n' ∉ part := by
        intro part hpart
        simp only [List.mem_cons (a := part) (b := first), List.mem_append, List.mem_map, List.mem_singleton] at hpart
        rcases hpart with rfl | ⟨l, hl, rfl⟩ | rfl
        · exact hfeed part List.mem_cons_self
        · exact hplaced l hl
        · exact hindent
      have hsplit := List.splitOn_intercalate '\n' hparts (List.cons_ne_nil _ _)
      rw [docValue, docLines_several hsplit, mapM_unindented?_placed]
      · have htwice : ∀ l, Text.trimEnd (Text.trimEnd l) = Text.trimEnd l := fun l =>
          Text.trimEnd_eq_self fun c hc => Text.not_isBlank_getLast?_trimEnd hc
        simp [htwice]
      · exact List.cons_ne_nil second rest

/-- The text of a docstring does not end in a quote. -/
theorem getLast?_docValue (hindent : '\x22' ∉ indent) : (docValue indent lines).getLast? ≠ some '\x22' := by
  cases lines with
  | nil => exact fun h => nomatch h
  | cons first others =>
    cases others with
    | nil =>
      rw [docValue]
      split
      · simp
      · assumption
    | cons second rest =>
      rw [docValue, ← List.cons_append, Writer.intercalate_append ['\n'] (List.cons_ne_nil _ _) (List.cons_ne_nil _ _),
        List.getLast?_append, List.intercalate_singleton, List.singleton_append]
      · intro h
        have hmem : '\x22' ∈ '\n' :: indent := by
          rw [List.getLast?_eq_some_getLast (List.cons_ne_nil _ _), Option.some_or] at h
          exact Option.some.inj h ▸ List.getLast_mem _
        rcases List.mem_cons.mp hmem with h | h
        · cases h
        · exact hindent h
      · exact fun h => nomatch h

end

/-! ## Docstrings as they are written -/

/-- What stands between the quotes of a docstring. -/
def Docstring.content (indent : List Char) (d : Docstring) : List Char :=
  if d.rest = [] then d.first.toList
  else ['\n'].intercalate (d.first.toList :: (d.rest.map (fun l => placed indent l.toList) ++ [indent]))

namespace Writer

/-- A line was written, and nothing but its end is due before the next. -/
structure Begun (w : Writer) : Prop where
  pieces : w.pieces ≠ []
  owed : w.owed = 0

variable {w : Writer} {text : String}

theorem begun_line (htext : text ≠ "") : (w.line text).Begun :=
  ⟨pieces_line w htext, owed_line w htext⟩

theorem Begun.gap (hw : w.Begun) : w.gap = "\n" := by
  rw [Writer.gap, if_neg (by simpa using hw.pieces), hw.owed]
  rfl

theorem indentation_of_level {w' : Writer} (h : w'.level = w.level) : w'.indentation = w.indentation := by
  rw [indentation, indentation, h]

theorem Begun.docLine (hw : w.Begun) (text : String) : (w.docLine text).Begun ∧ (w.docLine text).level = w.level ∧
    (w.docLine text).body.toList = w.body.toList ++ '\n' :: placed w.indentation.toList text.toList := by
  rw [Writer.docLine, placed]
  by_cases hblank : Text.trimEnd text.toList = []
  · rw [if_pos (by rw [hblank]; rfl), if_pos hblank]
    refine ⟨⟨List.cons_ne_nil _ _, hw.owed⟩, rfl, ?_⟩
    simp [body, push, String.join_append]
  · have htrimmed : String.ofList (Text.trimEnd text.toList) ≠ "" := by
      intro h
      exact hblank (by simpa using congrArg String.toList h)
    rw [if_neg (by simpa using htrimmed), if_neg hblank]
    refine ⟨begun_line htrimmed, level_line w, ?_⟩
    rw [body_line w htrimmed, hw.gap]
    simp

theorem Begun.docLines (hw : w.Begun) (texts : List String) : (texts.foldl Writer.docLine w).Begun ∧
    (texts.foldl Writer.docLine w).level = w.level ∧ (texts.foldl Writer.docLine w).body.toList =
      w.body.toList ++ texts.flatMap fun l => '\n' :: placed w.indentation.toList l.toList := by
  induction texts generalizing w with
  | nil => exact ⟨hw, rfl, by simp⟩
  | cons text others ih =>
    obtain ⟨hbegun, hlevel, hbody⟩ := hw.docLine text
    obtain ⟨hbegun', hlevel', hbody'⟩ := ih hbegun
    rw [List.foldl_cons]
    refine ⟨hbegun', hlevel'.trans hlevel, ?_⟩
    rw [hbody', hbody, indentation_of_level hlevel, List.flatMap_cons]
    simp

/-- A docstring adds its content between quotes, after what is due and the indentation. -/
theorem body_docstring (w : Writer) (d : Docstring) :
    (w.docstring d).body.toList =
      w.body.toList ++ ((w.gap ++ w.indentation).toList ++ (longQuotes ++ (d.content w.indentation.toList ++ longQuotes))) := by
  have hquotes : "\"\"\"".toList = longQuotes := rfl
  rw [docstring, Docstring.content]
  by_cases hrest : d.rest = []
  · rw [if_pos (by simpa using hrest), if_pos hrest, body_line w (by simp [← String.toList_inj])]
    simp only [String.toList_append, List.append_assoc, hquotes]
  · have hfirst : "\"\"\"" ++ d.first ≠ "" := by simp [← String.toList_inj]
    obtain ⟨hbegun, hlevel, hbody⟩ := (begun_line (w := w) hfirst).docLines d.rest
    rw [level_line] at hlevel
    rw [if_neg (by simpa using hrest), if_neg hrest, body_line _ (by decide), hbegun.gap, indentation_of_level hlevel,
      String.toList_append, hbody, body_line w hfirst, indentation_of_level (level_line w), intercalate_singleton_cons,
      List.flatMap_append]
    simp [hquotes, List.flatMap_map]

end Writer

/-- A placed line is escaped like the line, and a blank at its end does not matter. -/
theorem placed_escapeDocChars {indent : List Char} (hindent : ∀ c ∈ indent, IsPlain c) {blanks : List Char}
    (hblanks : ∀ c ∈ blanks, Text.isBlank c = true) (l : List Char) :
    placed indent (escapeDocChars l ++ blanks) = escapeDocChars (placed indent l) := by
  rw [placed, placed, Text.trimEnd_append_blanks hblanks, trimEnd_escapeDocChars]
  by_cases hl : Text.trimEnd l = []
  · rw [if_pos (by rw [hl]; rfl), if_pos hl]
    rfl
  · rw [if_neg (escapeDocChars_ne_nil hl), if_neg hl, escapeDocChars_plain_append hindent]

theorem docChars_eq (cs : List Char) : docChars cs = escapeDocChars cs ++ if cs.getLast? = some '\x22' then [' '] else [] := by
  rw [docChars, getLast?_escapeDocChars]
  by_cases hquote : cs.getLast? = some '\x22' <;> simp [hquote]

/-- The lines of a text in a docstring: those of the text, escaped, with a blank after a final quote. -/
theorem exists_splitLines_docChars {cs : List Char} (hne : cs ≠ []) (hend : ∀ c ∈ cs.getLast?, Text.isBlank c = false) :
    ∃ before last blanks, Text.splitLines cs = before ++ [last] ∧ (∀ c ∈ blanks, Text.isBlank c = true) ∧
      blanks = (if last.getLast? = some '\x22' then [' '] else []) ∧
      Text.splitLines (docChars cs) = before.map escapeDocChars ++ [escapeDocChars last ++ blanks] := by
  have hbreak : ∀ c ∈ (escapeDocChars cs).getLast?, Text.isLineBreak c = false := by
    intro c hc
    rw [getLast?_escapeDocChars] at hc
    by_contra hbreak
    have hblank := Text.isBlank_of_isLineBreak (Bool.not_eq_false _ ▸ hbreak)
    rw [hend c hc] at hblank
    cases hblank
  obtain ⟨before, last, hlast, hlines⟩ := Text.exists_lastLine _ (escapeDocChars_ne_nil hne) hbreak
  have hall := hlines [] (by simp)
  rw [List.append_nil, List.append_nil, splitLines_escapeDocChars] at hall
  obtain ⟨ls, ends, hsplit, rfl, hends⟩ := List.map_eq_append_iff.mp hall
  obtain ⟨l, rfl, rfl⟩ := List.map_eq_singleton_iff.mp hends
  rw [getLast?_escapeDocChars, getLast?_escapeDocChars] at hlast
  refine ⟨ls, l, _, hsplit, ?_, rfl, ?_⟩
  · split <;> simp [Text.isBlank]
  · rw [docChars_eq, ← hlast, hlines]
    split <;> simp [Text.isLineBreak]

/-- A text that is not blank becomes a docstring of its lines, escaped. -/
theorem exists_docstring {indent : List Char} (hindent : ∀ c ∈ indent, IsPlain c) {text : String}
    (hne : Text.trim text.toList ≠ []) :
    ∃ d, Docstring.ofText? text = some d ∧
      d.content indent = escapeDocChars (docValue indent (Text.splitLines (Text.trim text.toList))) := by
  obtain ⟨before, last, blanks, hsplit, hblanks, hquote, hlines⟩ :=
    exists_splitLines_docChars hne fun c hc => Text.not_isBlank_getLast?_trimEnd hc
  rw [Docstring.ofText?, hlines, hsplit]
  cases before with
  | nil =>
    refine ⟨_, rfl, ?_⟩
    have hvalue : docValue indent [last] = last ++ blanks := by
      rw [docValue, hquote]
      split <;> simp
    rw [Docstring.content, if_pos (by rfl), List.nil_append, hvalue,
      escapeDocChars_append_plain fun c hc => isPlain_of_isBlank (hblanks c hc), String.toList_ofList]
  | cons first middle =>
    refine ⟨_, rfl, ?_⟩
    have hplaced : ∀ l, placed indent (escapeDocChars l) = escapeDocChars (placed indent l) := fun l => by
      simpa using placed_escapeDocChars hindent (List.forall_mem_nil _) l
    have hends : escapeDocChars indent = indent := by
      simpa using escapeDocChars_append_plain (l := []) hindent
    have hvalue : docValue indent (first :: (middle ++ [last])) =
        ['\n'].intercalate (first :: ((middle ++ [last]).map (placed indent) ++ [indent])) := by
      cases middle <;> rfl
    rw [Docstring.content, if_neg (by simp), List.cons_append, hvalue, escapeDocChars_intercalate]
    simp [hplaced, placed_escapeDocChars hindent hblanks, hends, Function.comp_def]

/-! ## Comments as they are written -/

theorem mem_collapseBlanks {c : Char} {cs : List Char} {inBlank : Bool} (hc : c ∈ collapseBlanks inBlank cs) :
    c ∈ cs ∨ c = ' ' := by
  induction cs generalizing inBlank with
  | nil => cases hc
  | cons d others ih =>
    rw [collapseBlanks] at hc
    grind

/-- The line of a comment for a line of its text. -/
def commentLine (l : List Char) : String :=
  let l := commentChars l
  if l.isEmpty then "#" else String.ofList ('#' :: ' ' :: l)

theorem comment_eq (w : Writer) (text : String) :
    w.comment text = w.lines ((Text.splitLines (Text.trim text.toList)).map commentLine) := rfl

theorem commentLine_spec {l : List Char} (hl : ∀ c ∈ l, Text.isLineBreak c = false) :
    (commentLine l).toList.head? = some '#' ∧ ∀ c ∈ (commentLine l).toList, Text.isLineBreak c = false := by
  have hchars : ∀ c ∈ commentChars l, Text.isLineBreak c = false := by
    intro c hc
    rcases mem_collapseBlanks (Text.mem_of_mem_trim hc) with hc | rfl
    · exact hl c (List.mem_of_mem_filter hc)
    · rfl
  rw [commentLine]
  split
  · exact ⟨rfl, by simp [Text.isLineBreak]⟩
  · refine ⟨by simp, fun c hc => ?_⟩
    rw [String.toList_ofList, List.mem_cons, List.mem_cons] at hc
    rcases hc with rfl | rfl | hc
    · rfl
    · rfl
    · exact hchars c hc

/-! ## Descriptions stay inside -/

/-- The writer goes on with a docstring of the text: one string, whatever follows it, with the lines of the text after the
indentation, up to the blanks at their ends. -/
def GoesOnWithDocstring (w : Writer) (text : String) (w' : Writer) : Prop :=
  ∃ body value : List Char,
    w'.body.toList = w.body.toList ++ ((w.gap ++ w.indentation).toList ++ (longQuotes ++ (body ++ longQuotes))) ∧
    (∀ rest, Source.plainToken? (longQuotes ++ (body ++ (longQuotes ++ rest))) =
      some (.string ⟨false, false, false, body⟩, rest)) ∧
    Source.bodyValue body = some value ∧
    (docLines w.indentation.toList value).map (·.map Text.trimEnd) =
      some ((Text.splitLines (Text.trim text.toList)).map Text.trimEnd)

/-- The writer goes on with a comment on the text: one line for every line of the text, each of which starts with the mark of a
comment after the indentation and has no line end. -/
def GoesOnWithComment (w : Writer) (text : String) (w' : Writer) : Prop :=
  ∃ lines : List String,
    w'.body = w.body ++ (if lines = [] then "" else w.gap ++ "\n".intercalate (lines.map (w.indentation ++ ·))) ∧
    lines.length = (Text.splitLines (Text.trim text.toList)).length ∧
    ∀ l ∈ lines, l.toList.head? = some '#' ∧ '\n' ∉ l.toList ∧ '\r' ∉ l.toList

theorem exists_goesOnWithDocstring (w : Writer) {text : String} (hne : Text.trim text.toList ≠ []) :
    ∃ w', Layout.writeDescription w (some text) = .ok w' ∧ GoesOnWithDocstring w text w' := by
  have hblank : ∀ c ∈ w.indentation.toList, c = ' ' := fun c hc => by
    rw [Writer.toList_indentation] at hc
    exact List.eq_of_mem_replicate hc
  obtain ⟨d, hd, hcontent⟩ := exists_docstring (fun c hc => hblank c hc ▸ isPlain_of_isBlank rfl) hne
  have hlast : (docValue w.indentation.toList (Text.splitLines (Text.trim text.toList))).getLast? ≠ some '\x22' :=
    getLast?_docValue fun h => absurd (hblank _ h) (by decide)
  have hlines : Text.splitLines (Text.trim text.toList) ≠ [] := by
    intro h
    obtain ⟨before, last, -, hsplit, -⟩ :=
      exists_splitLines_docChars hne fun c hc => Text.not_isBlank_getLast?_trimEnd hc
    simp [h] at hsplit
  have hfeed : ∀ l ∈ Text.splitLines (Text.trim text.toList), '\n' ∉ l := fun l hl h =>
    absurd (Text.noBreak_of_mem_splitLines _ l hl _ h) (by decide)
  have hwritten : Layout.writeDescription w (some text) = .ok (w.docstring d) := by
    have htext : text ≠ "" := by
      rintro rfl
      exact hne rfl
    simp [Layout.writeDescription, Docstring.ofDescription, htext, hd, Writer.docstring?]
  refine ⟨w.docstring d, hwritten, _, _, Writer.body_docstring w d, fun rest => ?_, ?_,
    docLines_docValue hlines (fun h => absurd (hblank _ h) (by decide)) hfeed⟩
  · rw [hcontent]
    exact Source.plainToken?_escapeDocChars _ rest hlast
  · rw [hcontent]
    exact Source.bodyValue_escapeDocChars _

theorem goesOnWithComment_comment (w : Writer) (text : String) : GoesOnWithComment w text (w.comment text) := by
  have hspec : ∀ l ∈ (Text.splitLines (Text.trim text.toList)).map commentLine,
      l.toList.head? = some '#' ∧ ∀ c ∈ l.toList, Text.isLineBreak c = false := by
    intro l hl
    obtain ⟨line, hline, rfl⟩ := List.mem_map.mp hl
    exact commentLine_spec (Text.noBreak_of_mem_splitLines _ line hline)
  refine ⟨_, ?_, List.length_map _, fun l hl => ⟨(hspec l hl).1, ?_, ?_⟩⟩
  · rw [comment_eq]
    generalize (Text.splitLines (Text.trim text.toList)).map commentLine = lines at hspec
    by_cases hlines : lines = []
    · rw [hlines, if_pos rfl, String.append_empty]
      rfl
    · rw [if_neg hlines, Writer.body_lines w hlines]
      rintro _ hl rfl
      cases (hspec _ hl).1
  · exact fun h => absurd ((hspec l hl).2 _ h) (by decide)
  · exact fun h => absurd ((hspec l hl).2 _ h) (by decide)

/-- A description that is not blank becomes one string with its lines, and every text a comment on its lines. -/
theorem descriptions_stay_inside (w : Writer) (text : String) :
    ((∃ c ∈ text.toList, Text.isBlank c = false) →
      ∃ w', Layout.writeDescription w (some text) = .ok w' ∧ GoesOnWithDocstring w text w') ∧
    GoesOnWithComment w text (w.comment text) := by
  refine ⟨?_, goesOnWithComment_comment w text⟩
  rintro ⟨c, hc, hblank⟩
  exact exists_goesOnWithDocstring w (Text.trim_ne_nil hc hblank)

/-- A text with a run of five quotes, quotes after backslashes and before line breaks, a blank line and a quote at its end. -/
def quotedText : String :=
  " five \"\"\"\"\" \\\"\"\"\r\n\t\n\\\u2028\"\"\"\n\"\"\\\" # not \"the end\""

theorem descriptions_stay_inside_quoted :
    (∃ c ∈ quotedText.toList, Text.isBlank c = false) ∧
      ∃ w', Layout.writeDescription (Writer.indent {}) (some quotedText) = .ok w' ∧
        GoesOnWithDocstring (Writer.indent {}) quotedText w' := by
  have hquoted : ∃ c ∈ quotedText.toList, Text.isBlank c = false := ⟨'#', by decide, rfl⟩
  exact ⟨hquoted, (descriptions_stay_inside _ _).1 hquoted⟩

end TypedOperations
