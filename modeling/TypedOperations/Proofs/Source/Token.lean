import TypedOperations.Proofs.Text.LetterCase
import TypedOperations.Source.Token

/-!
# Words and marks

A name is one word of the text of a module, whatever follows it that can neither belong to a word nor open a string; the marks
between names are tokens of their own.
-/

namespace TypedOperations.Source

variable {c : Char} {rest : List Char}

/-! ## Characters of words -/

theorem isWordChar_of_beyond (hc : 128 ≤ c.toNat) : isWordChar c = true := by
  simp [isWordChar, hc]

theorem isDigit_of_beyond (hc : 128 ≤ c.toNat) : c.isDigit = false := by
  have hnine : '9'.toNat = 57 := rfl
  rw [Bool.eq_false_iff, ne_eq, Char.isDigit_iff_toNat]
  omega

/-- Of ranges that begin beyond ASCII or are among a few, only those few matter for an ASCII character. -/
theorem inRanges_of_ascii {ranges few : List (Nat × Nat)} {n : Nat} (hranges : ∀ r ∈ ranges, 128 ≤ r.1 ∨ r ∈ few)
    (hn : n < 128) (h : Text.inRanges ranges n = true) : Text.inRanges few n = true := by
  obtain ⟨r, hr, hin⟩ := List.any_eq_true.mp h
  rcases hranges r hr with hbeyond | hfew
  · rw [Bool.and_eq_true, decide_eq_true_iff] at hin
    omega
  · exact List.any_eq_true.mpr ⟨r, hfew, hin⟩

theorem isWordChar_of_continue (hc : Text.isIdentifierContinue c = true) : isWordChar c = true := by
  by_cases h : c.toNat < 128
  · exact Text.of_ascii (P := fun c => Text.inRanges [(0x30, 0x39), (0x41, 0x5A), (0x5F, 0x5F), (0x61, 0x7A)] c.toNat = true →
      isWordChar c = true) (by decide +kernel) (fun h _ => isWordChar_of_beyond h)
      (inRanges_of_ascii (by decide +kernel) h hc)
  · exact isWordChar_of_beyond (Nat.le_of_not_lt h)

theorem isWordChar_of_start (hc : Text.isIdentifierStart c = true) : isWordChar c = true ∧ c.isDigit = false := by
  by_cases h : c.toNat < 128
  · exact Text.of_ascii (P := fun c => Text.inRanges [(0x41, 0x5A), (0x5F, 0x5F), (0x61, 0x7A)] c.toNat = true →
      isWordChar c = true ∧ c.isDigit = false) (by decide +kernel)
      (fun h _ => ⟨isWordChar_of_beyond h, isDigit_of_beyond h⟩) (inRanges_of_ascii (by decide +kernel) h hc)
  · exact ⟨isWordChar_of_beyond (Nat.le_of_not_lt h), isDigit_of_beyond (Nat.le_of_not_lt h)⟩

/-- The letters that may stand in front of a string are letters of words. -/
theorem isWordChar_of_toLower : c.toLower ∈ ['b', 'r', 'u', 'f'] → isWordChar c = true :=
  Text.of_ascii (P := fun c => c.toLower ∈ ['b', 'r', 'u', 'f'] → isWordChar c = true) (by decide +kernel) fun h _ =>
    isWordChar_of_beyond h

theorem isQuote_of_isWordChar (hc : isWordChar c = true) : isQuote c = false := by
  rw [Bool.eq_false_iff]
  intro hquote
  rcases (Bool.or_eq_true _ _).mp hquote with h | h
  · rw [beq_iff_eq.mp h] at hc
    cases hc
  · rw [beq_iff_eq.mp h] at hc
    cases hc

/-! ## Words -/

/-- A text that is one word, which begins like a name. -/
structure IsWord (s : String) : Prop where
  first : ∃ c more, s.toList = c :: more ∧ c.isDigit = false
  chars : ∀ c ∈ s.toList, isWordChar c = true
  fits : (s.toList.all (·.toNat < 128) || Text.isIdentifier s) = true

theorem IsWord.of_isIdentifier {s : String} (hs : Text.isIdentifier s = true) : IsWord s := by
  have hidentifier := hs
  rw [Text.isIdentifier] at hidentifier
  cases hchars : s.toList with
  | nil =>
    rw [hchars] at hidentifier
    cases hidentifier
  | cons c more =>
    rw [hchars, Bool.and_eq_true, List.all_eq_true] at hidentifier
    have hstart := isWordChar_of_start hidentifier.1
    refine ⟨⟨c, more, hchars, hstart.2⟩, fun d hd => ?_, by rw [hs, Bool.or_true]⟩
    rw [hchars, List.mem_cons] at hd
    rcases hd with rfl | hd
    · exact hstart.1
    · exact isWordChar_of_continue (hidentifier.2 d hd)

/-- No word goes on with the text, and it opens no string. -/
def EndsWord (rest : List Char) : Prop :=
  ∀ c ∈ rest.head?, isWordChar c = false ∧ isQuote c = false

/-- Letters in front of a string are letters. -/
theorem letters_of_contains {cs : List Char} (hcs : stringLetters.contains (String.ofList cs) = true) :
    ∀ c ∈ cs, c ∈ ['b', 'r', 'u', 'f'] := by
  have hletters : ∀ s ∈ stringLetters, s.toList ⊆ ['b', 'r', 'u', 'f'] := by decide
  have h := hletters _ (List.contains_iff_mem.mp hcs)
  rwa [String.toList_ofList] at h

/-- No string starts where a quote comes after other than letters of words only. -/
theorem stringAt?_eq_none {a : Char} (ha : isQuote a = false)
    (hone : ∀ b more, rest = b :: more → isQuote b = true → isWordChar a = false)
    (htwo : ∀ b d more, rest = b :: d :: more → isQuote d = true → isWordChar a = false ∨ isWordChar b = false) :
    stringAt? (a :: rest) = none := by
  have hletters : ∀ cs : List Char, (∃ x ∈ cs, isWordChar x = false) →
      ¬ stringLetters.contains (String.ofList (cs.map Char.toLower)) = true := by
    rintro cs ⟨x, hx, hword⟩ hcontains
    rw [isWordChar_of_toLower (letters_of_contains hcontains _ (List.mem_map_of_mem hx))] at hword
    cases hword
  match rest with
  | [] => simp [stringAt?, ha]
  | [b] =>
    by_cases hb : isQuote b = true
    · have hnone := hletters [a] ⟨a, by simp, hone b [] rfl hb⟩
      simpa [stringAt?, ha, hb] using hnone
    · simp [stringAt?, ha, hb]
  | b :: d :: more =>
    by_cases hb : isQuote b = true
    · have hnone := hletters [a] ⟨a, by simp, hone b (d :: more) rfl hb⟩
      simpa [stringAt?, ha, hb] using hnone
    · by_cases hd : isQuote d = true
      · have hnone := hletters [a, b] (by simpa using htwo b d more rfl hd)
        simpa [stringAt?, ha, hb, hd] using hnone
      · simp [stringAt?, ha, hb, hd]

/-- No string starts with characters of words before what ends a word. -/
theorem stringAt?_eq_none_of_word {w : List Char} (hne : w ≠ []) (hw : ∀ c ∈ w, isWordChar c = true) (hrest : EndsWord rest) :
    stringAt? (w ++ rest) = none := by
  obtain ⟨c, more, rfl⟩ := List.exists_cons_of_ne_nil hne
  have hquote : ∀ x ∈ c :: more, isQuote x = false := fun x hx => isQuote_of_isWordChar (hw x hx)
  rw [List.cons_append]
  refine Source.stringAt?_eq_none (hquote c (by simp)) (fun b others heq hb => ?_) (fun b d others heq hd => ?_)
  · cases more with
    | nil => rw [(hrest b (by rw [← List.nil_append rest, heq]; rfl)).2] at hb; cases hb
    | cons x xs =>
      cases heq
      rw [hquote b (by simp)] at hb
      cases hb
  · match more with
    | [] => exact Or.inr (hrest b (by rw [← List.nil_append rest, heq]; rfl)).1
    | [x] =>
      cases heq
      rw [(hrest d rfl).2] at hd
      cases hd
    | x :: y :: xs =>
      cases heq
      rw [hquote d (by simp)] at hd
      cases hd

/-- A word is read to its end. -/
theorem plainToken?_word {s : String} (hs : IsWord s) (hrest : EndsWord rest) :
    plainToken? (s.toList ++ rest) = some (.word s, rest) := by
  have hne : s.toList ≠ [] := by
    obtain ⟨c, more, hchars, -⟩ := hs.first
    simp [hchars]
  have hnone := stringAt?_eq_none_of_word hne hs.chars hrest
  have htake : (s.toList ++ rest).takeWhile isWordChar = s.toList := by
    rw [List.takeWhile_append_of_pos hs.chars]
    cases rest with
    | nil => simp
    | cons c more => simp [(hrest c rfl).1]
  have hdrop : (s.toList ++ rest).dropWhile isWordChar = rest := by
    have h := List.takeWhile_append_dropWhile (p := isWordChar) (l := s.toList ++ rest)
    rw [htake] at h
    exact List.append_cancel_left h
  have hword : wordAt? (s.toList ++ rest) = some (.word s, rest) := by
    simp only [wordAt?, htake, hdrop, String.ofList_toList]
    exact if_pos hs.fits
  obtain ⟨c, more, hchars, hdigit⟩ := hs.first
  have hc : isWordChar c = true := hs.chars c (by simp [hchars])
  have hpoint : c ≠ '.' := by
    rintro rfl
    cases hc
  rw [hchars, List.cons_append] at hnone hword ⊢
  simp [plainToken?, hnone, hdigit, hpoint, hc, hword]

/-! ## Marks -/

/-- The marks that stand between the parts of expressions. -/
def partMarks : List Char := "()[]\x7b\x7d,:-.".toList

/-- What can be checked of each of these marks holds of them all. -/
theorem forall_partMarks {P : Char → Prop} [DecidablePred P] (h : partMarks.all (fun m => decide (P m)) = true) :
    ∀ m ∈ partMarks, P m :=
  fun m hm => of_decide_eq_true (List.all_eq_true.mp h m hm)

/-- The mark does not go on with the text: no longer mark begins there, and a point is not before a digit. -/
def EndsMark (c : Char) (rest : List Char) : Prop :=
  ∀ d ∈ rest.head?, d ≠ '=' ∧ d ≠ '>' ∧ (c = '.' → d.isDigit = false ∧ d ≠ '.')

/-- No word, number or string starts with a character that belongs to none of them. -/
theorem plainToken?_eq_none (hquote : isQuote c = false) (hword : isWordChar c = false)
    (hpoint : c = '.' → ∀ d ∈ rest.head?, d.isDigit = false) : plainToken? (c :: rest) = none := by
  have hnone : stringAt? (c :: rest) = none :=
    stringAt?_eq_none hquote (fun _ _ _ _ => hword) fun _ _ _ _ _ => Or.inl hword
  have hdigit : c.isDigit = false := by
    simp only [isWordChar, Char.isAlphanum, Bool.or_eq_false_iff] at hword
    exact hword.1.1.2
  have hfraction : (c == '.' && rest.head?.any Char.isDigit) = false := by
    rw [Bool.and_eq_false_iff, beq_eq_false_iff_ne]
    by_cases h : c = '.'
    · cases hhead : rest.head? with
      | none => exact Or.inr rfl
      | some d => exact Or.inr (hpoint h d hhead)
    · exact Or.inl h
  simp [plainToken?, hnone, hdigit, hfraction, hword]

theorem plainToken?_mark (hc : c ∈ partMarks) (hrest : EndsMark c rest) : plainToken? (c :: rest) = none := by
  have hmarks : ∀ m ∈ partMarks, isQuote m = false ∧ isWordChar m = false := forall_partMarks (by decide)
  obtain ⟨hquote, hword⟩ := hmarks c hc
  exact plainToken?_eq_none hquote hword fun h d hd => ((hrest d hd).2.2 h).1

theorem markAt?_mark (hc : c ∈ partMarks) (hrest : EndsMark c rest) : markAt? (c :: rest) = some (c.toString, rest) := by
  have hlong : longMarks.find? (fun m => m.toList.isPrefixOf (c :: rest)) = none := by
    rw [List.find?_eq_none]
    intro m hm hprefix
    -- a longer mark that begins with one of these goes on with one of three characters
    have hstart : ∀ c ∈ partMarks, ∀ m ∈ longMarks, m.toList.head? = some c →
        m.toList.tail.head? = some '=' ∨ m.toList.tail.head? = some '>' ∨ c = '.' ∧ m.toList.tail.head? = some '.' :=
      forall_partMarks (by decide)
    obtain ⟨more, hmore⟩ := List.isPrefixOf_iff_prefix.mp hprefix
    cases hchars : m.toList with
    | nil =>
      have hfilled : ∀ m ∈ longMarks, m.toList ≠ [] := by decide
      exact hfilled m hm hchars
    | cons first ds =>
      rw [hchars] at hmore
      obtain ⟨rfl, rfl⟩ := List.cons.inj hmore
      have hsecond := hstart first hc m hm (by rw [hchars]; rfl)
      rw [hchars, List.tail_cons] at hsecond
      have hnext : ∀ d, ds.head? = some d → d ≠ '=' ∧ d ≠ '>' ∧ (first = '.' → d.isDigit = false ∧ d ≠ '.') :=
        fun d hd => hrest d (by rw [List.append_eq, List.head?_append, hd]; rfl)
      rcases hsecond with h | h | ⟨hpoint, h⟩
      · exact (hnext _ h).1 rfl
      · exact (hnext _ h).2.1 rfl
      · exact ((hnext _ h).2.2 hpoint).2 rfl
  have hshort : shortMarks.contains c = true := by
    have hmarks : ∀ m ∈ partMarks, shortMarks.contains m = true := forall_partMarks (by decide)
    exact hmarks c hc
  simp [markAt?, hlong, List.contains_iff_mem.mp hshort]

end TypedOperations.Source
