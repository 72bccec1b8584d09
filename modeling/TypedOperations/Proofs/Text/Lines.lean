import TypedOperations.Text.Blank

/-!
# Trimmed texts and lines

Trimming keeps what is not blank and adds nothing. A text is a line without line breaks, or such a line and a line break before
another text (`lines_induction`); its lines are those. Line ends are left as they are where there is no carriage return.
-/

namespace TypedOperations.Text

variable {c : Char} {cs : List Char}

theorem mem_of_mem_trimEnd (hc : c ∈ trimEnd cs) : c ∈ cs := by
  rw [trimEnd, List.mem_reverse] at hc
  exact List.mem_reverse.mp ((List.dropWhile_sublist _).subset hc)

theorem mem_of_mem_trim (hc : c ∈ trim cs) : c ∈ cs :=
  (List.dropWhile_sublist _).subset (mem_of_mem_trimEnd hc)

theorem trim_ne_nil (hc : c ∈ cs) (hblank : isBlank c = false) : trim cs ≠ [] := by
  have hkept : ∀ {ds : List Char}, c ∈ ds → c ∈ ds.dropWhile isBlank := by
    intro ds hmem
    rw [← List.takeWhile_append_dropWhile (p := isBlank) (l := ds), List.mem_append] at hmem
    rcases hmem with hmem | hmem
    · rw [List.all_eq_true.mp List.all_takeWhile c hmem] at hblank
      cases hblank
    · exact hmem
  have hend : c ∈ trim cs := List.mem_reverse.mpr (hkept (List.mem_reverse.mpr (hkept hc)))
  exact List.ne_nil_of_mem hend

theorem isBlank_of_isLineBreak (hc : isLineBreak c = true) : isBlank c = true := by
  simp only [isLineBreak, Bool.or_eq_true, Bool.and_eq_true, decide_eq_true_eq, beq_iff_eq] at hc
  simp only [isBlank, Bool.or_eq_true, Bool.and_eq_true, decide_eq_true_eq, beq_iff_eq]
  omega

/-- Blanks at the end do not matter. -/
theorem trimEnd_append_blanks {blanks : List Char} (hblanks : ∀ c ∈ blanks, isBlank c = true) :
    trimEnd (cs ++ blanks) = trimEnd cs := by
  rw [trimEnd, List.reverse_append, List.dropWhile_append_of_pos, trimEnd]
  simpa using hblanks

theorem exists_blanks (cs : List Char) : ∃ blanks, cs = trimEnd cs ++ blanks ∧ ∀ c ∈ blanks, isBlank c = true := by
  refine ⟨(cs.reverse.takeWhile isBlank).reverse, ?_, fun c hc => ?_⟩
  · rw [trimEnd, ← List.reverse_append, List.takeWhile_append_dropWhile, List.reverse_reverse]
  · exact List.all_eq_true.mp List.all_takeWhile c (List.mem_reverse.mp hc)

theorem not_isBlank_getLast?_trimEnd (hc : c ∈ (trimEnd cs).getLast?) : isBlank c = false := by
  rw [trimEnd, List.getLast?_reverse, Option.mem_def] at hc
  have hhead := List.head?_dropWhile_not isBlank cs.reverse
  rw [hc] at hhead
  simpa using hhead

/-- A text that does not end in a blank is trimmed. -/
theorem trimEnd_eq_self (hcs : ∀ c ∈ cs.getLast?, isBlank c = false) : trimEnd cs = cs := by
  obtain ⟨blanks, hsplit, hblanks⟩ := exists_blanks cs
  cases blanks with
  | nil => rw [List.append_nil] at hsplit; exact hsplit.symm
  | cons b others =>
    have hlast : (b :: others).getLast (List.cons_ne_nil b others) ∈ cs.getLast? := by
      rw [hsplit, List.getLast?_append, List.getLast?_eq_some_getLast (List.cons_ne_nil b others)]
      rfl
    have hblank := hblanks _ (List.getLast_mem (List.cons_ne_nil b others))
    rw [hcs _ hlast] at hblank
    cases hblank

/-- A text without blanks is trimmed. -/
theorem trim_eq_self (hcs : ∀ c ∈ cs, isBlank c = false) : trim cs = cs := by
  have hstart : trimStart cs = cs := by
    cases cs with
    | nil => rfl
    | cons c rest => exact List.dropWhile_cons_of_neg (by simp [hcs c])
  rw [trim, hstart]
  exact trimEnd_eq_self fun c hc => hcs c (List.mem_of_getLast? hc)

/-! ## Lines one after another -/

/-- These characters end a line before what follows: a carriage return with a line feed, or one line break. -/
inductive EndsLine : List Char → List Char → Prop where
  | pair (rest : List Char) : EndsLine ['\r', '\n'] rest
  | single {b : Char} {rest : List Char} : isLineBreak b = true → (b = '\r' → rest.head? ≠ some '\n') → EndsLine [b] rest

section
variable {l mark rest line : List Char}

theorem EndsLine.append {more : List Char} (h : EndsLine mark rest) (hrest : rest ≠ []) : EndsLine mark (rest ++ more) := by
  cases h with
  | pair => exact .pair _
  | single hb hpair =>
    rw [List.head?_eq_some_head hrest] at hpair
    exact .single hb (by rwa [List.head?_append, List.head?_eq_some_head hrest, Option.some_or])

theorem splitLinesFrom_noBreak (hl : ∀ c ∈ l, isLineBreak c = false) :
    splitLinesFrom line (l ++ rest) = splitLinesFrom (l.reverse ++ line) rest := by
  induction l generalizing line with
  | nil => rfl
  | cons c others ih =>
    have hc : isLineBreak c = false := hl c List.mem_cons_self
    have hreturn : c ≠ '\r' := by
      rintro rfl
      cases hc
    rw [List.cons_append, splitLinesFrom, if_neg (by simp [hc]), ih fun d hd => hl d (List.mem_cons_of_mem c hd)]
    · simp
    · exact fun _ h => absurd h hreturn

/-- A text without line breaks is one line, unless it is empty. -/
theorem splitLines_of_noBreak (hne : l ≠ []) (hl : ∀ c ∈ l, isLineBreak c = false) : splitLines l = [l] := by
  have hfrom : splitLinesFrom [] (l ++ []) = splitLinesFrom (l.reverse ++ []) [] := splitLinesFrom_noBreak hl
  rw [List.append_nil, List.append_nil] at hfrom
  rw [splitLines, hfrom, splitLinesFrom, if_neg (by simpa using hne), List.reverse_reverse]

/-- A line is what stands before the first line break. -/
theorem splitLines_endsLine (hl : ∀ c ∈ l, isLineBreak c = false) (hmark : EndsLine mark rest) :
    splitLines (l ++ (mark ++ rest)) = l :: splitLines rest := by
  rw [splitLines, splitLinesFrom_noBreak hl, List.append_nil]
  cases hmark with
  | pair => simp [splitLinesFrom, splitLines]
  | single hb hpair =>
    rw [List.singleton_append, splitLinesFrom, if_pos hb, List.reverse_reverse, splitLines]
    rintro more hreturn rfl
    exact hpair hreturn rfl

/-- What holds of texts without line breaks, and of a line before a text of which it holds, holds of every text. -/
theorem lines_induction {P : List Char → Prop} (last : ∀ l, (∀ c ∈ l, isLineBreak c = false) → P l)
    (more : ∀ l mark rest, (∀ c ∈ l, isLineBreak c = false) → EndsLine mark rest → P rest → P (l ++ (mark ++ rest)))
    (cs : List Char) : P cs := by
  induction hn : cs.length using Nat.strongRecOn generalizing cs with
  | _ n ih =>
    have hl : ∀ c ∈ cs.takeWhile (!isLineBreak ·), isLineBreak c = false := fun c hc => by
      simpa using List.all_eq_true.mp List.all_takeWhile c hc
    have hsplit := List.takeWhile_append_dropWhile (p := (!isLineBreak ·)) (l := cs)
    match hrest : cs.dropWhile (!isLineBreak ·) with
    | [] =>
      rw [hrest, List.append_nil] at hsplit
      rw [← hsplit]
      exact last _ hl
    | b :: rest =>
      have hb : isLineBreak b = true := by
        have := List.head?_dropWhile_not (!isLineBreak ·) cs
        simpa [hrest] using this
      have hlength : rest.length < cs.length := by
        rw [← hsplit, hrest, List.length_append, List.length_cons]
        omega
      rw [hrest] at hsplit
      rw [← hsplit]
      by_cases hpair : b = '\r' ∧ rest.head? = some '\n'
      · obtain ⟨rfl, hfeed⟩ := hpair
        obtain ⟨others, rfl⟩ := List.head?_eq_some_iff.mp hfeed
        exact more _ ['\r', '\n'] others hl (.pair others) (ih _ (by rw [← hn]; simp at hlength; omega) others rfl)
      · exact more _ [b] rest hl (.single hb fun hb' hfeed => hpair ⟨hb', hfeed⟩) (ih _ (by rw [← hn]; exact hlength) rest rfl)

/-- The last line of a text that does not end in a line break goes on with what is put after the text. -/
theorem exists_lastLine (cs : List Char) (hne : cs ≠ []) (hlast : ∀ c ∈ cs.getLast?, isLineBreak c = false) :
    ∃ before last, last.getLast? = cs.getLast? ∧
      ∀ more, (∀ c ∈ more, isLineBreak c = false) → splitLines (cs ++ more) = before ++ [last ++ more] := by
  induction cs using lines_induction with
  | last l hl =>
    refine ⟨[], l, rfl, fun more hmore => ?_⟩
    rw [List.nil_append]
    exact splitLines_of_noBreak (by simp [hne]) fun c hc => (List.mem_append.mp hc).elim (hl c) (hmore c)
  | more l mark rest hl hmark ih =>
    have hrest : rest ≠ [] := by
      rintro rfl
      cases hmark with
      | pair => cases hlast '\n' (by simp)
      | @single b _ hb _ => exact absurd (hlast b (by simp)) (by rw [hb]; exact Bool.noConfusion)
    have hend : (l ++ (mark ++ rest)).getLast? = rest.getLast? := by
      rw [← List.append_assoc, List.getLast?_append, List.getLast?_eq_some_getLast hrest]
      rfl
    obtain ⟨before, last, hlast', hlines⟩ := ih hrest (by rwa [hend] at hlast)
    refine ⟨l :: before, last, hlast'.trans hend.symm, fun more hmore => ?_⟩
    rw [List.append_assoc, List.append_assoc, splitLines_endsLine hl (hmark.append hrest), hlines more hmore, List.cons_append]

/-- Lines have no line breaks. -/
theorem noBreak_of_mem_splitLines (cs : List Char) : ∀ l ∈ splitLines cs, ∀ c ∈ l, isLineBreak c = false := by
  induction cs using lines_induction with
  | last l hl =>
    intro l' hl'
    by_cases hne : l = []
    · rw [hne] at hl'
      cases hl'
    · rw [splitLines_of_noBreak hne hl, List.mem_singleton] at hl'
      exact hl' ▸ hl
  | more l mark rest hl hmark ih =>
    rw [splitLines_endsLine hl hmark]
    exact List.forall_mem_cons.mpr ⟨hl, ih⟩

end

theorem unifyLineEnds_of_noReturn (hcs : '\r' ∉ cs) : unifyLineEnds cs = cs := by
  fun_induction unifyLineEnds cs with
  | case1 => rfl
  | case2 rest ih => exact absurd List.mem_cons_self hcs
  | case3 c rest _ ih =>
    rw [List.mem_cons, not_or] at hcs
    rw [ih hcs.2, if_neg (by simpa using Ne.symm hcs.1)]

end TypedOperations.Text
