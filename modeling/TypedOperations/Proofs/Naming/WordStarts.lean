import TypedOperations.Proofs.Naming.Distinct

/-!
# Where words start

Snake case is made in two passes. The first marks a capital before a small letter, but not where the character before it ends
the word that was marked last; the second marks a capital after a small letter or digit. What the first pass leaves out has a
small letter before it, so the second finds it, and what the first has marked has an underscore before it, so the second leaves
it alone. Together they mark by one rule that looks at a capital and its two neighbours (`wordStartsAt`).
-/

namespace TypedOperations.Naming

open Text

/-- A word starts at the position: a capital that is not the first character, with a small letter or digit before it or a small
letter after it. -/
def wordStartsAt (cs : List Char) (i : Nat) : Bool :=
  1 ≤ i && cs[i]?.any Char.isUpper && (cs[i - 1]?.any isSmallOrDigit || cs[i + 1]?.any Char.isLower)

/-- The text with an underscore before every position where a word starts. -/
def separateWords (cs : List Char) : List Char :=
  cs.zipIdx.flatMap fun p => if wordStartsAt cs p.2 then ['_', p.1] else [p.1]

/-- After the character `b`, a word starts with the first of the characters that follow. -/
def startsWord (b : Char) : List Char → Bool
  | [] => false
  | c :: rest => c.isUpper && (isSmallOrDigit b || rest.head?.any Char.isLower)

/-- The words of a text separated, from its beginning on. -/
def markStarts : List Char → List Char
  | [] => []
  | b :: rest => if startsWord b rest then b :: '_' :: markStarts rest else b :: markStarts rest

theorem markStarts_cons (b : Char) (rest : List Char) :
    markStarts (b :: rest) = if startsWord b rest then b :: '_' :: markStarts rest else b :: markStarts rest := rfl

variable {cs : List Char}

/-! ## One pass -/

/-- A word starts after the character `b` in the middle of a text as its neighbours tell. -/
theorem wordStartsAt_append (before : List Char) (b c : Char) (rest : List Char) :
    wordStartsAt (before ++ b :: c :: rest) (before.length + 1) = startsWord b (c :: rest) := by
  have hafter : (before ++ b :: c :: rest)[before.length + 1 + 1]? = rest.head? := by
    rw [List.getElem?_append_right (by omega), show before.length + 1 + 1 - before.length = 2 by omega]
    exact List.head?_eq_getElem?.symm
  simp [wordStartsAt, startsWord, hafter]

/-- The characters after `b`, with the words that start among them separated, depend on nothing before `b`. -/
theorem flatMap_wordStartsAt (cs : List Char) :
    ∀ (before : List Char) (b : Char),
      b :: (cs.zipIdx (before.length + 1)).flatMap
        (fun p => if wordStartsAt (before ++ b :: cs) p.2 then ['_', p.1] else [p.1]) = markStarts (b :: cs) := by
  induction cs with
  | nil => exact fun _ _ => rfl
  | cons c rest ih =>
    intro before b
    have hrest := ih (before ++ [b]) c
    rw [List.length_append, List.length_singleton, List.append_assoc, List.singleton_append] at hrest
    rw [List.zipIdx_cons, List.flatMap_cons, wordStartsAt_append, markStarts, ← hrest]
    split <;> rfl

theorem separateWords_eq (cs : List Char) : separateWords cs = markStarts cs := by
  cases cs with
  | nil => rfl
  | cons b rest =>
    rw [← flatMap_wordStartsAt rest [] b]
    rfl

/-! ## Two passes -/

theorem markHumps_cons_eq (b : Char) (cs : List Char) :
    markHumps (b :: cs) =
      if isSmallOrDigit b && cs.head?.any Char.isUpper then b :: '_' :: markHumps cs else b :: markHumps cs := by
  cases cs with
  | nil => simp [markHumps]
  | cons c rest => rfl

/-- After a small letter or digit, every capital starts a word. -/
theorem startsWord_of_small {b : Char} (hb : isSmallOrDigit b = true) (cs : List Char) :
    startsWord b cs = cs.head?.any Char.isUpper := by
  cases cs <;> simp [startsWord, hb]

/-- After a small letter or digit the second pass finds where words start, if it does in what follows. -/
theorem markHumps_of_small {b : Char} (hb : isSmallOrDigit b = true) {copying : Bool}
    (hrest : markHumps (markWords copying cs) = markStarts cs) :
    markHumps (b :: markWords copying cs) = markStarts (b :: cs) := by
  rw [markHumps_cons_eq, head?_markWords, hrest, markStarts, startsWord_of_small hb, hb, Bool.true_and]

/-- Marking words and then humps marks where words start. -/
theorem markHumps_markWords (copying : Bool) (cs : List Char) (hline : '\n' ∉ cs) :
    markHumps (markWords copying cs) = markStarts cs := by
  fun_induction markWords copying cs with
  | case1 => rfl
  | case2 copying c rest hcopy ih =>
    have hc : isSmallOrDigit c = true := by
      rw [Bool.and_eq_true] at hcopy
      simp [isSmallOrDigit, hcopy.2]
    exact markHumps_of_small hc (ih fun h => hline (List.mem_cons_of_mem c h))
  | case3 copying c _ u l rest hword ih =>
    -- the mark of the first pass stands between `c` and `u`, and the second pass goes on after the small letter `l`
    simp only [Bool.and_eq_true] at hword
    have hl : isSmallOrDigit l = true := by simp [isSmallOrDigit, hword.2]
    have hupper : l.isUpper = false := Bool.eq_false_iff.mpr fun h => by
      rw [isLower_of_isUpper h] at hword
      exact absurd hword.2 (by decide)
    have hrest := markHumps_of_small hl (ih fun h => hline (by simp [h]))
    calc markHumps (c :: '_' :: u :: l :: markWords true rest)
        = c :: '_' :: u :: markHumps (l :: markWords true rest) := by
          simp [markHumps, hupper]
      _ = c :: '_' :: u :: markStarts (l :: rest) := by rw [hrest]
      _ = markStarts (c :: u :: l :: rest) := by
          simp [markStarts, startsWord, hword.1.2, hword.2, hupper]
  | case4 copying c _ u l rest hword ih =>
    -- no small letter follows a capital `u`, so that `u` starts a word only after a small letter or digit
    have hu : u.isUpper = true → l.isLower = false := by
      have hc : c ≠ '\n' := fun h => hline (h ▸ List.mem_cons_self)
      simpa [hc] using hword
    rw [markHumps_cons_eq, head?_markWords, ih fun h => hline (List.mem_cons_of_mem c h), markStarts_cons c]
    cases hupper : u.isUpper with
    | false => simp [startsWord, hupper]
    | true => simp [startsWord, hupper, hu hupper]
  | case5 copying c u _ ih =>
    rw [markHumps_cons_eq, head?_markWords, ih fun h => hline (List.mem_cons_of_mem c h), markStarts_cons c]
    simp [startsWord, and_comm]
  | case6 => rfl

/-! ## Snake case of ASCII names -/

/-- Separating words adds nothing but underscores. -/
theorem mem_markStarts {c : Char} (h : c ∈ markStarts cs) : c ∈ cs ∨ c = '_' := by
  induction cs with
  | nil => exact Or.inl h
  | cons b rest ih =>
    rw [markStarts_cons] at h
    split at h <;> grind

/-- Without the underscores, the separated words are the text. -/
theorem filter_markStarts (cs : List Char) : (markStarts cs).filter (· != '_') = cs.filter (· != '_') := by
  induction cs with
  | nil => rfl
  | cons b rest ih =>
    rw [markStarts_cons]
    split <;> simp [List.filter_cons, ih]

/-- Where there are no capitals, no words are separated. -/
theorem markStarts_of_noCapitals (h : ∀ c ∈ cs, c.isUpper = false) : markStarts cs = cs := by
  induction cs with
  | nil => rfl
  | cons b rest ih =>
    obtain ⟨-, hrest⟩ := List.forall_mem_cons.mp h
    have hstart : startsWord b rest = false := by
      cases rest with
      | nil => rfl
      | cons c more => rw [startsWord, hrest c List.mem_cons_self, Bool.false_and]
    rw [markStarts_cons, hstart, ih hrest]
    rfl

/-- Where no underscore is left, no words were separated. -/
theorem markStarts_of_noUnderscore (h : '_' ∉ markStarts cs) : markStarts cs = cs := by
  induction cs with
  | nil => rfl
  | cons b rest ih =>
    rw [markStarts_cons] at h ⊢
    split at h
    · simp at h
    · rename_i hstart
      rw [if_neg hstart, ih fun hrest => h (List.mem_cons_of_mem b hrest)]

/-- Underscores at the end of a text stay there. -/
theorem markStarts_append_replicate (k : Nat) (cs : List Char) :
    markStarts (cs ++ List.replicate k '_') = markStarts cs ++ List.replicate k '_' := by
  induction cs with
  | nil =>
    refine markStarts_of_noCapitals fun c hc => ?_
    rw [List.eq_of_mem_replicate hc]
    rfl
  | cons b rest ih =>
    have hstart : startsWord b (rest ++ List.replicate k '_') = startsWord b rest := by
      cases rest with
      | nil => cases k <;> rfl
      | cons c more =>
        have hnext : (more ++ List.replicate k '_').head?.any Char.isLower = more.head?.any Char.isLower := by
          cases more with
          | nil => cases k <;> rfl
          | cons => rfl
        rw [List.cons_append, startsWord, startsWord, hnext]
    rw [List.cons_append, markStarts_cons, markStarts_cons, hstart, ih]
    split <;> rfl

/-- Snake case of an ASCII text without line feeds: its words separated, in lower case. -/
theorem snakeChars_of_ascii (hascii : ∀ c ∈ cs, c.toNat < 128) (hline : '\n' ∉ cs) :
    snakeChars cs = (markStarts cs).map Char.toLower := by
  rw [snakeChars, markHumps_markWords false cs hline]
  refine lowerFrom_of_ascii _ fun c hc => ?_
  rcases mem_markStarts hc with hc | rfl
  · exact hascii c hc
  · decide

/-- To put a text in snake case again changes nothing. -/
theorem snakeChars_idem (hascii : ∀ c ∈ cs, c.toNat < 128) (hline : '\n' ∉ cs) :
    snakeChars (snakeChars cs) = snakeChars cs := by
  have hsnake := snakeChars_of_ascii hascii hline
  have hascii' : ∀ c ∈ snakeChars cs, c.toNat < 128 := by
    intro c hc
    obtain ⟨d, hd, rfl⟩ := List.mem_map.mp (hsnake ▸ hc)
    rcases mem_markStarts hd with hd | rfl
    · exact toLower_ascii (hascii d hd)
    · decide
  have hline' : '\n' ∉ snakeChars cs := by
    intro h
    obtain ⟨d, hd, hfeed⟩ := List.mem_map.mp (hsnake ▸ h)
    cases eq_of_toLower hfeed rfl
    rcases mem_markStarts hd with hd | hd
    · exact hline hd
    · cases hd
  have hsmall : ∀ c ∈ snakeChars cs, c.isUpper = false := fun c hc => isUpper_of_mem_lowerFrom _ hc
  calc snakeChars (snakeChars cs)
      = (markStarts (snakeChars cs)).map Char.toLower := snakeChars_of_ascii hascii' hline'
    _ = (snakeChars cs).map Char.toLower := by rw [markStarts_of_noCapitals hsmall]
    _ = (snakeChars cs).map id := List.map_congr_left fun c hc => toLower_eq_self (hsmall c hc)
    _ = snakeChars cs := List.map_id _

/-- Without its underscores, the snake case is the text without its own, in lower case. -/
theorem filter_snakeChars (hascii : ∀ c ∈ cs, c.toNat < 128) (hline : '\n' ∉ cs) :
    (snakeChars cs).filter (· != '_') = (cs.filter (· != '_')).map Char.toLower := by
  have hunderscore : ((· != '_') ∘ Char.toLower) = (· != '_') := by
    funext c
    rw [Function.comp_apply, Bool.eq_iff_iff, bne_iff_ne, bne_iff_ne, not_iff_not]
    refine ⟨fun h => eq_of_toLower h rfl, ?_⟩
    rintro rfl
    rfl
  rw [snakeChars_of_ascii hascii hline, List.filter_map, hunderscore, filter_markStarts]

/-- Snake case follows one local rule. The snake case of an ASCII name without line feeds is the name in lower case, with one
underscore before each position, but the first, where a capital stands after a small letter or digit or before a small letter.
So it is the snake case of itself, has no capitals, and differs from the name in lower case by underscores only. -/
theorem snakeCase_exact {name : String} (hascii : ∀ c ∈ name.toList, c.toNat < 128) (hline : '\n' ∉ name.toList) :
    (snakeCase name).toList = (separateWords name.toList).map Char.toLower ∧
      snakeCase (snakeCase name) = snakeCase name ∧
      (∀ c ∈ (snakeCase name).toList, c.isUpper = false) ∧
      (snakeCase name).toList.filter (· != '_') = (name.toList.filter (· != '_')).map Char.toLower := by
  have hchars : ∀ s : String, (snakeCase s).toList = snakeChars s.toList := fun s => String.toList_ofList
  refine ⟨?_, ?_, fun c hc => isUpper_of_mem_snakeCase hc, ?_⟩
  · rw [hchars, snakeChars_of_ascii hascii hline, separateWords_eq]
  · rw [snakeCase, hchars, snakeChars_idem hascii hline]
    rfl
  · rw [hchars, filter_snakeChars hascii hline]

/-- Acronyms, digits and underscores, and words that follow one another. -/
theorem snakeCase_exact_acronym :
    separateWords "getHTTPStatus2Go_ToMyURLs".toList = "get_HTTP_Status2_Go__To_My_UR_Ls".toList ∧
      snakeCase "getHTTPStatus2Go_ToMyURLs" = "get_http_status2_go__to_my_ur_ls" ∧
      snakeCase "get_http_status2_go__to_my_ur_ls" = "get_http_status2_go__to_my_ur_ls" := by
  have hascii : ∀ c ∈ "getHTTPStatus2Go_ToMyURLs".toList, c.toNat < 128 := by simp
  obtain ⟨hrule, hidem, -⟩ := snakeCase_exact hascii (by decide)
  have hwords : separateWords "getHTTPStatus2Go_ToMyURLs".toList = "get_HTTP_Status2_Go__To_My_UR_Ls".toList := by decide +kernel
  have hsnake : snakeCase "getHTTPStatus2Go_ToMyURLs" = "get_http_status2_go__to_my_ur_ls" := by
    rw [← String.toList_inj, hrule, hwords]
    rfl
  rw [hsnake] at hidem
  exact ⟨hwords, hsnake, hidem⟩

end TypedOperations.Naming
