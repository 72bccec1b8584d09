import Mathlib.Data.List.DropRight
import Mathlib.Data.List.Sections
import TypedOperations.Proofs.Declaration.TypeTexts
import TypedOperations.Proofs.Naming.Inflection
import TypedOperations.Proofs.Naming.WordStarts
import TypedOperations.Source.Statement

/-!
# Class names of response keys

A response key is a name, and its class is the Pascal case of its singular. That is a name in its turn, if anything but underscores
is left of the key and it does not begin with a digit. The reserved words of the target language are in small letters, apart from
its three constants, and those are in Pascal case: a key that spells one in one word, in the singular or the plural, has the
constant for its class (`keyStem`, `constantSpellings`).
-/

namespace TypedOperations.Naming

open Text

variable {cs : List Char} {c : Char}

/-! ## Words joined -/

/-- The text without its underscores, where the character after each of them, and the first one if `capital`, is in upper case. -/
def joinWords (capital : Bool) : List Char → List Char
  | [] => []
  | c :: rest => if c == '_' then joinWords true rest else (if capital then upperChar c else [c]) ++ joinWords false rest

theorem joinWords_underscore (capital : Bool) (rest : List Char) : joinWords capital ('_' :: rest) = joinWords true rest := rfl

theorem joinWords_cons (capital : Bool) (hc : c ≠ '_') (rest : List Char) :
    joinWords capital (c :: rest) = (if capital then upperChar c else [c]) ++ joinWords false rest :=
  if_neg (by simpa using hc)

/-- Splitting at underscores and capitalising the parts joins the words. -/
theorem flatMap_capitalize (cs : List Char) :
    ∀ part, (splitOnFrom '_' part cs).flatMap capitalize = capitalize part.reverse ++ joinWords part.isEmpty cs := by
  induction cs with
  | nil => exact fun part => by simp [splitOnFrom, joinWords]
  | cons c rest ih =>
    intro part
    by_cases hc : c = '_'
    · subst hc
      rw [splitOnFrom, if_pos (beq_self_eq_true _), List.flatMap_cons, ih [], joinWords_underscore]
      rfl
    · rw [splitOnFrom, if_neg (by simpa using hc), ih (c :: part), joinWords_cons _ hc, List.reverse_cons, ← List.append_assoc]
      congr 1
      cases hpart : part.reverse with
      | nil => simp [List.reverse_eq_nil_iff.mp hpart, capitalize]
      | cons first more =>
        have hne : part.isEmpty = false := by
          cases part with
          | nil => cases hpart
          | cons => rfl
        simp [hne, capitalize]

theorem pascalChars_eq (cs : List Char) : pascalChars cs = joinWords true (snakeChars cs) :=
  flatMap_capitalize (snakeChars cs) []

theorem mem_joinWords {d : Char} : ∀ {capital : Bool}, d ∈ joinWords capital cs → ∃ c ∈ cs, d = c ∨ d ∈ upperChar c := by
  induction cs with
  | nil => exact fun h => absurd h List.not_mem_nil
  | cons c rest ih =>
    intro capital h
    by_cases hc : c = '_'
    · subst hc
      obtain ⟨e, he, hd⟩ := ih h
      exact ⟨e, List.mem_cons_of_mem _ he, hd⟩
    · rw [joinWords_cons capital hc] at h
      rcases List.mem_append.mp h with h | h
      · refine ⟨c, List.mem_cons_self, ?_⟩
        split at h
        · exact Or.inr h
        · exact Or.inl (List.mem_singleton.mp h)
      · obtain ⟨e, he, hd⟩ := ih h
        exact ⟨e, List.mem_cons_of_mem _ he, hd⟩

theorem joinWords_replicate (k : Nat) : ∀ capital, joinWords capital (List.replicate k '_') = [] := by
  induction k with
  | zero => exact fun _ => rfl
  | succ k ih => exact fun _ => ih true

/-- After an underscore comes no small letter, so what is joined to none is all underscores. -/
theorem eq_replicate_of_joinWords {small : List Char} (hsmall : ∀ c ∈ small, c.isLower = true)
    (h : joinWords true cs = small) : small = [] ∧ ∃ k, cs = List.replicate k '_' := by
  induction cs with
  | nil => exact ⟨h.symm, 0, rfl⟩
  | cons c rest ih =>
    by_cases hc : c = '_'
    · subst hc
      obtain ⟨hnil, k, rfl⟩ := ih h
      exact ⟨hnil, k + 1, rfl⟩
    · obtain ⟨d, ds, hupper⟩ := List.exists_cons_of_ne_nil (upperChar_ne_nil c)
      rw [joinWords_cons true hc, if_pos rfl, hupper] at h
      have hd := hsmall d (h ▸ List.mem_cons_self)
      rw [isLower_of_mem_upperChar (c := c) (hupper ▸ List.mem_cons_self)] at hd
      cases hd

/-- Inside a word, small letters are joined from those letters and underscores after them only. -/
theorem joinWords_eq_iff {small : List Char} (hsmall : ∀ c ∈ small, c.isLower = true) :
    joinWords false cs = small ↔ ∃ k, cs = small ++ List.replicate k '_' := by
  constructor
  · intro h
    induction cs generalizing small with
    | nil =>
      subst h
      exact ⟨0, rfl⟩
    | cons c rest ih =>
      by_cases hc : c = '_'
      · subst hc
        obtain ⟨rfl, k, rfl⟩ := eq_replicate_of_joinWords hsmall h
        exact ⟨k + 1, rfl⟩
      · rw [joinWords_cons false hc] at h
        subst h
        obtain ⟨k, hk⟩ := ih (fun c hc => hsmall c (List.mem_append_right _ hc)) rfl
        exact ⟨k, congrArg (c :: ·) hk⟩
  · rintro ⟨k, rfl⟩
    induction small with
    | nil => exact joinWords_replicate k false
    | cons c rest ih =>
      obtain ⟨hc, hrest⟩ := List.forall_mem_cons.mp hsmall
      have hne : c ≠ '_' := by
        rintro rfl
        cases hc
      rw [List.cons_append, joinWords_cons false hne, ih hrest]
      rfl

/-! ## Words of names -/

theorem ascii_of_isNameContinue (h : Language.isNameContinue c = true) : c.toNat < 128 := by
  by_contra hbeyond
  rw [isNameContinue_of_beyond (Nat.le_of_not_lt hbeyond)] at h
  cases h

theorem isNameContinue_toLower (h : Language.isNameContinue c = true) : Language.isNameContinue c.toLower = true := by
  by_cases hc : c.isAlpha = true
  · simp [Language.isNameContinue, Char.isAlphanum, hc]
  · rw [isAlpha_eq, Bool.or_eq_true, not_or] at hc
    rwa [toLower_eq_self (Bool.eq_false_iff.mpr hc.1)]

theorem isNameContinue_toUpper (h : Language.isNameContinue c = true) : Language.isNameContinue c.toUpper = true := by
  by_cases hc : c.isAlpha = true
  · simp [Language.isNameContinue, Char.isAlphanum, hc]
  · rw [isAlpha_eq, Bool.or_eq_true, not_or] at hc
    rwa [toUpper_eq_self (Bool.eq_false_iff.mpr hc.2)]

/-- The characters of a name, without underscores at the beginning. -/
structure IsWord (cs : List Char) : Prop where
  chars : ∀ c ∈ cs, Language.isNameContinue c = true
  start : cs.head? ≠ some '_'

namespace IsWord

theorem ascii (h : IsWord cs) : ∀ c ∈ cs, c.toNat < 128 := fun c hc => ascii_of_isNameContinue (h.chars c hc)

theorem noFeed (h : IsWord cs) : '\n' ∉ cs := fun hfeed => absurd (h.chars _ hfeed) (by decide)

theorem ne_underscore {rest : List Char} (h : IsWord (c :: rest)) : c ≠ '_' := fun hc => h.start (congrArg some hc)

/-- The snake case begins with the first character in lower case, the Pascal case with it in upper case. -/
theorem exists_pascalChars {rest : List Char} (h : IsWord (c :: rest)) :
    ∃ more, snakeChars (c :: rest) = c.toLower :: more ∧ pascalChars (c :: rest) = c.toUpper :: joinWords false more := by
  have hsnake : ∃ more, snakeChars (c :: rest) = c.toLower :: more := by
    rw [snakeChars_of_ascii h.ascii h.noFeed, markStarts_cons]
    split <;> exact ⟨_, rfl⟩
  obtain ⟨more, hmore⟩ := hsnake
  have hc : c.toLower ≠ '_' := fun hc => h.ne_underscore (eq_of_toLower hc rfl)
  have hupper : upperChar c.toLower = [c.toUpper] := by
    rw [upperChar, if_pos (toLower_ascii (h.ascii c List.mem_cons_self)), toUpper_toLower]
  refine ⟨more, hmore, ?_⟩
  rw [pascalChars_eq, hmore, joinWords_cons true hc, if_pos rfl, hupper]
  rfl

theorem pascalChars_eq_nil_iff (h : IsWord cs) : pascalChars cs = [] ↔ cs = [] := by
  cases cs with
  | nil => exact iff_of_true rfl rfl
  | cons c rest =>
    obtain ⟨more, -, hpascal⟩ := h.exists_pascalChars
    rw [hpascal]
    exact iff_of_false (List.cons_ne_nil _ _) (List.cons_ne_nil _ _)

theorem mem_snakeChars (h : IsWord cs) {d : Char} (hd : d ∈ snakeChars cs) : Language.isNameContinue d = true := by
  rw [snakeChars_of_ascii h.ascii h.noFeed] at hd
  obtain ⟨c, hc, rfl⟩ := List.mem_map.mp hd
  refine isNameContinue_toLower ?_
  rcases mem_markStarts hc with hc | rfl
  · exact h.chars c hc
  · rfl

/-- The Pascal case of a word has the characters of a name. -/
theorem mem_pascalChars (h : IsWord cs) {d : Char} (hd : d ∈ pascalChars cs) : Language.isNameContinue d = true := by
  rw [pascalChars_eq] at hd
  obtain ⟨c, hc, rfl | hd⟩ := mem_joinWords hd
  · exact h.mem_snakeChars hc
  · have hname := h.mem_snakeChars hc
    rw [upperChar, if_pos (ascii_of_isNameContinue hname)] at hd
    rw [List.mem_singleton.mp hd]
    exact isNameContinue_toUpper hname

/-- The Pascal case of a word is an identifier exactly if the word begins with a letter. -/
theorem isIdentifier_pascalChars (h : IsWord cs) :
    isIdentifier (String.ofList (pascalChars cs)) = true ↔ cs.head?.any Char.isAlpha = true := by
  cases cs with
  | nil => exact iff_of_false (by decide) (by decide)
  | cons c rest =>
    obtain ⟨more, -, hpascal⟩ := h.exists_pascalChars
    rw [List.head?_cons, Option.any_some]
    constructor
    · intro hid
      by_contra hc
      have hletter : c.isUpper = false ∧ c.isLower = false := by simpa [isAlpha_eq] using hc
      have hdigit : c.isDigit = true := by
        have hname := h.chars c List.mem_cons_self
        simpa [Language.isNameContinue, Char.isAlphanum, hc, h.ne_underscore] using hname
      rw [hpascal, isIdentifier, String.toList_ofList, toUpper_eq_self hletter.2,
        Bool.and_eq_true] at hid
      rw [(Source.isWordChar_of_start hid.1).2] at hdigit
      cases hdigit
    · intro hc
      refine (isIdentifier_of_isName ?_).1
      rw [Language.isName, String.toList_ofList, hpascal, Bool.and_eq_true, List.all_eq_true]
      refine ⟨?_, fun d hd => h.mem_pascalChars (hpascal ▸ List.mem_cons_of_mem _ hd)⟩
      rw [Language.isNameStart, isAlpha_toUpper, hc, Bool.true_or]

end IsWord

/-! ## Underscores at the end -/

/-- The text without the underscores at its end. -/
def dropLastUnderscores (cs : List Char) : List Char :=
  cs.rdropWhile (· == '_')

theorem dropLastUnderscores_beginning (cs : List Char) : dropLastUnderscores cs <+: cs :=
  List.rdropWhile_prefix _ cs

theorem exists_append_underscores (cs : List Char) : ∃ k, cs = dropLastUnderscores cs ++ List.replicate k '_' := by
  have hall : ∀ c ∈ cs.rtakeWhile (· == '_'), c = '_' := fun c hc => by simpa using List.mem_rtakeWhile_imp hc
  exact ⟨_, by rw [← List.eq_replicate_of_mem hall, dropLastUnderscores, List.rdropWhile_append_rtakeWhile]⟩

theorem dropLastUnderscores_append (k : Nat) (cs : List Char) :
    dropLastUnderscores (cs ++ List.replicate k '_') = dropLastUnderscores cs := by
  induction k with
  | zero => rw [List.replicate_zero, List.append_nil]
  | succ k ih =>
    rw [List.replicate_succ', ← List.append_assoc, dropLastUnderscores, List.rdropWhile_concat_pos _ _ _ (by simp)]
    exact ih

theorem dropLastUnderscores_eq_self (h : cs.getLast? ≠ some '_') : dropLastUnderscores cs = cs := by
  refine List.rdropWhile_eq_self_iff.mpr fun hne hlast => h ?_
  rw [List.getLast?_eq_some_getLast hne, beq_iff_eq.mp hlast]

theorem getLast?_dropLastUnderscores (cs : List Char) : (dropLastUnderscores cs).getLast? ≠ some '_' := by
  intro h
  have hne : dropLastUnderscores cs ≠ [] := by
    rintro hnil
    rw [hnil] at h
    cases h
  rw [List.getLast?_eq_some_getLast hne] at h
  exact List.rdropWhile_last_not _ _ hne (beq_iff_eq.mpr (Option.some.inj h))

namespace IsWord

/-- A beginning of a word is a word. -/
theorem of_beginning {beginning : List Char} (h : IsWord cs) (hbegins : beginning <+: cs) : IsWord beginning := by
  refine ⟨fun c hc => h.chars c (hbegins.subset hc), fun hstart => h.start ?_⟩
  have hne : beginning ≠ [] := by
    rintro rfl
    cases hstart
  rw [← head?_of_beginning hbegins hne, hstart]

/-- The snake case has the underscores at its end that the word has. -/
theorem exists_snakeChars (h : IsWord cs) :
    ∃ k, snakeChars cs = snakeChars (dropLastUnderscores cs) ++ List.replicate k '_' := by
  obtain ⟨k, hk⟩ := exists_append_underscores cs
  have hword := h.of_beginning (dropLastUnderscores_beginning cs)
  refine ⟨k, ?_⟩
  calc snakeChars cs
      = (markStarts (dropLastUnderscores cs ++ List.replicate k '_')).map Char.toLower := by
        rw [snakeChars_of_ascii h.ascii h.noFeed, ← hk]
    _ = (markStarts (dropLastUnderscores cs)).map Char.toLower ++ List.replicate k '_' := by
        rw [markStarts_append_replicate, List.map_append, List.map_replicate]
        rfl
    _ = snakeChars (dropLastUnderscores cs) ++ List.replicate k '_' := by
        rw [snakeChars_of_ascii hword.ascii hword.noFeed]

/-- The Pascal case is a capitalised word of small letters exactly if the snake case is that word, and underscores. -/
theorem pascalChars_eq_capitalize_iff (h : IsWord cs) {word : List Char} (hword : ∀ c ∈ word, c.isLower = true)
    (hne : word ≠ []) : pascalChars cs = capitalize word ↔ ∃ k, snakeChars cs = word ++ List.replicate k '_' := by
  obtain ⟨d, small, rfl⟩ := List.exists_cons_of_ne_nil hne
  obtain ⟨hd, hsmall⟩ := List.forall_mem_cons.mp hword
  have hlower : d.toLower = d := toLower_eq_self (isUpper_of_isLower hd)
  have hupper : capitalize (d :: small) = d.toUpper :: small := by
    rw [isLower_iff] at hd
    rw [capitalize, upperChar, if_pos (by omega)]
    rfl
  rw [hupper]
  cases cs with
  | nil =>
    refine iff_of_false (List.cons_ne_nil _ _).symm ?_
    rintro ⟨k, hk⟩
    exact List.cons_ne_nil _ _ hk.symm
  | cons c rest =>
    obtain ⟨more, hsnake, hpascal⟩ := h.exists_pascalChars
    rw [hpascal, hsnake, List.cons_eq_cons, joinWords_eq_iff hsmall]
    constructor
    · rintro ⟨hc, k, rfl⟩
      refine ⟨k, ?_⟩
      rw [← toLower_toUpper, hc, toLower_toUpper, hlower]
      rfl
    · rintro ⟨k, hk⟩
      obtain ⟨hc, rfl⟩ := List.cons_eq_cons.mp hk
      exact ⟨by rw [← toUpper_toLower, hc], k, rfl⟩

/-- Up to underscores at the end, the snake case is that of the word without its own. -/
theorem snakeChars_eq_append_iff (h : IsWord cs) {word : List Char} (hword : ∀ c ∈ word, c.isLower = true) :
    (∃ k, snakeChars cs = word ++ List.replicate k '_') ↔ snakeChars (dropLastUnderscores cs) = word := by
  obtain ⟨k, hk⟩ := h.exists_snakeChars
  constructor
  · rintro ⟨j, hj⟩
    have hlast : word.getLast? ≠ some '_' := fun hlast => absurd (hword _ (List.mem_of_getLast? hlast)) (by decide)
    have hlast' : (snakeChars (dropLastUnderscores cs)).getLast? ≠ some '_' := fun hlast =>
      getLast?_dropLastUnderscores cs (getLast?_of_snakeChars hlast)
    have hdropped := congrArg dropLastUnderscores (hk.symm.trans hj)
    rwa [dropLastUnderscores_append, dropLastUnderscores_append, dropLastUnderscores_eq_self hlast',
      dropLastUnderscores_eq_self hlast] at hdropped
  · rintro rfl
    exact ⟨k, hk⟩

end IsWord

/-! ## Constants -/

/-- The constants of the target language as one word: in small letters, with a capital, and in capitals. -/
def constantSpellings : List String :=
  ["false", "False", "FALSE", "none", "None", "NONE", "true", "True", "TRUE"]

/-- A text is one of the spellings of what it is in lower case. -/
theorem mem_sections_toLower (cs : List Char) :
    cs ∈ ((cs.map Char.toLower).map fun d => [d, d.toUpper]).sections := by
  rw [List.mem_sections, List.map_map, List.forall₂_map_right_iff, List.forall₂_same]
  intro c _
  by_cases hc : c.isUpper = true
  · have hupper : c.toUpper = c := toUpper_eq_self (isLower_of_isUpper hc)
    simp [hupper]
  · simp [toLower_eq_self (Bool.eq_false_iff.mpr hc)]

/-- The snake case is a constant exactly if the text spells it as one word. -/
theorem snakeChars_constant_iff (hascii : ∀ c ∈ cs, c.toNat < 128) (hline : '\n' ∉ cs) :
    (∃ word ∈ constants, snakeChars cs = word.toList) ↔ String.ofList cs ∈ constantSpellings := by
  constructor
  · rintro ⟨word, hword, hsnake⟩
    have hspelled : ∀ word ∈ constants, ∀ cs ∈ (word.toList.map fun d => [d, d.toUpper]).sections,
        snakeChars cs = word.toList → String.ofList cs ∈ constantSpellings := by decide +kernel
    have hplain : ∀ word ∈ constants, '_' ∉ word.toList := by decide
    have hwhole : cs.map Char.toLower = word.toList := by
      rw [snakeChars_of_ascii hascii hline] at hsnake
      rw [← hsnake, markStarts_of_noUnderscore]
      intro hmark
      exact hplain word hword (hsnake ▸ List.mem_map.mpr ⟨'_', hmark, rfl⟩)
    exact hspelled word hword cs (hwhole ▸ mem_sections_toLower cs) hsnake
  · have hsnake : ∀ spelling ∈ constantSpellings, ∃ word ∈ constants, snakeChars spelling.toList = word.toList := by
      decide +kernel
    intro h
    have hcs := hsnake _ h
    rwa [String.toList_ofList] at hcs

/-- The Pascal case of a word is reserved exactly if the word, without underscores at its end, spells a constant. -/
theorem IsWord.isReserved_pascalChars (h : IsWord cs) :
    isReserved (String.ofList (pascalChars cs)) = true ↔ String.ofList (dropLastUnderscores cs) ∈ constantSpellings := by
  have hcapital : ∀ word ∈ reservedWords, word.toList.head?.any Char.isLower = true ∨
      ∃ constant ∈ constants, word.toList = capitalize constant.toList := by decide +kernel
  have hreserved : ∀ constant ∈ constants, String.ofList (capitalize constant.toList) ∈ reservedWords := by decide +kernel
  have hsmall : ∀ constant ∈ constants, constant.toList.all Char.isLower = true ∧ constant.toList ≠ [] := by decide
  have hword := h.of_beginning (dropLastUnderscores_beginning cs)
  calc isReserved (String.ofList (pascalChars cs)) = true
      ↔ ∃ constant ∈ constants, pascalChars cs = capitalize constant.toList := by
        rw [isReserved, List.contains_iff_mem]
        constructor
        · intro hmem
          rcases hcapital _ hmem with hhead | hconstant
          · rw [String.toList_ofList] at hhead
            obtain ⟨c, hc, hlower⟩ := (Option.any_eq_true _ _).mp hhead
            rw [head?_pascalChars hc] at hlower
            cases hlower
          · rwa [String.toList_ofList] at hconstant
        · rintro ⟨constant, hconstant, hpascal⟩
          rw [hpascal]
          exact hreserved constant hconstant
    _ ↔ ∃ constant ∈ constants, snakeChars (dropLastUnderscores cs) = constant.toList := by
        refine exists_congr fun constant => and_congr_right fun hconstant => ?_
        have hletters := List.all_eq_true.mp (hsmall constant hconstant).1
        rw [h.pascalChars_eq_capitalize_iff hletters (hsmall constant hconstant).2, h.snakeChars_eq_append_iff hletters]
    _ ↔ String.ofList (dropLastUnderscores cs) ∈ constantSpellings := snakeChars_constant_iff hword.ascii hword.noFeed

/-! ## Response keys -/

/-- Underscores at the end leave the first character of a word. -/
theorem IsWord.head?_dropLastUnderscores (h : IsWord cs) : (dropLastUnderscores cs).head? = cs.head? := by
  cases cs with
  | nil => rfl
  | cons c rest =>
    refine head?_of_beginning (dropLastUnderscores_beginning _) fun hnil => h.ne_underscore ?_
    simpa using List.rdropWhile_eq_nil_iff.mp hnil c List.mem_cons_self

theorem isAlpha_of_isApart {ending : List Char} (h : isApart (ending.map Char.toLower) = true) :
    ∀ c ∈ ending, c.isAlpha = true := by
  intro c hc
  have hsmall := (isApart_iff.mp h).2.1 c.toLower (List.mem_map_of_mem hc)
  rwa [isLower_toLower] at hsmall

/-- A text that ends as no constant does spells none. -/
theorem notMem_of_isApart {stem ending : List Char} (h : isApart (ending.map Char.toLower) = true) :
    String.ofList (dropLastUnderscores (stem ++ ending)) ∉ constantSpellings := by
  have hlower : ∀ spelling ∈ constantSpellings, ∃ word ∈ constants, spelling.toList.map Char.toLower = word.toList := by decide
  obtain ⟨hne, -, hapart⟩ := isApart_iff.mp h
  have hlast : (stem ++ ending).getLast? ≠ some '_' := by
    rw [List.getLast?_append_of_ne_nil _ (mt List.map_eq_nil_iff.mpr hne)]
    exact fun hlast => absurd (isAlpha_of_isApart h _ (List.mem_of_getLast? hlast)) (by decide)
  rw [dropLastUnderscores_eq_self hlast]
  intro hmem
  obtain ⟨word, hword, hsame⟩ := hlower _ hmem
  rw [String.toList_ofList, List.map_append] at hsame
  exact hapart word hword ⟨stem.map Char.toLower, hsame⟩

namespace Inflected

variable {inflected : List Char}

theorem ne_nil (h : Inflected cs inflected) : cs ≠ [] ∧ inflected ≠ [] := by
  obtain ⟨stem, ending, ending', rfl, rfl, hending, hending', -⟩ := h
  have hne : ∀ {ending : List Char}, isApart (ending.map Char.toLower) = true → stem ++ ending ≠ [] := fun h hnil =>
    (isApart_iff.mp h).1 (List.map_eq_nil_iff.mpr (List.append_eq_nil_iff.mp hnil).2)
  exact ⟨hne hending, hne hending'⟩

theorem notMem_constantSpellings (h : Inflected cs inflected) :
    String.ofList (dropLastUnderscores cs) ∉ constantSpellings ∧
      String.ofList (dropLastUnderscores inflected) ∉ constantSpellings := by
  obtain ⟨stem, ending, ending', rfl, rfl, hending, hending', -⟩ := h
  exact ⟨notMem_of_isApart hending, notMem_of_isApart hending'⟩

/-- A noun begins with a letter if it did so before it was inflected, and only then. -/
theorem head?_any_isAlpha (h : Inflected cs inflected) : inflected.head?.any Char.isAlpha = cs.head?.any Char.isAlpha := by
  obtain ⟨stem, ending, ending', rfl, rfl, -, -, hhead⟩ := h
  cases stem with
  | nil =>
    have hcase : ∀ first : Option Char, first.any Char.isAlpha = (first.map Char.toLower).any Char.isAlpha := by
      intro first
      cases first <;> simp
    rw [List.nil_append, List.nil_append, hcase, ← hhead rfl, ← hcase]
  | cons c rest => rfl

/-- A word that is inflected stays a word. -/
theorem isWord (h : Inflected cs inflected) (hword : IsWord cs) : IsWord inflected := by
  obtain ⟨stem, ending, ending', rfl, rfl, -, hending', -⟩ := h
  have hletters := isAlpha_of_isApart hending'
  refine ⟨fun c hc => ?_, ?_⟩
  · rcases List.mem_append.mp hc with hc | hc
    · exact hword.chars c (List.mem_append_left _ hc)
    · simp [Language.isNameContinue, Char.isAlphanum, hletters c hc]
  · cases stem with
    | nil => exact fun hstart => absurd (hletters _ (List.mem_of_head? hstart)) (by decide)
    | cons c rest => exact hword.start

end Inflected

/-- What tells whether a response key names a class: the key without the underscores at its beginning, one `s` at its end, and the
underscores before that. -/
def keyStem (key : String) : List Char :=
  dropLastUnderscores (dropPlural (key.toList.dropWhile (· == '_')))

/-- Without the underscores at its beginning, a name is a word. -/
theorem isWord_of_isName {key : String} (hkey : Language.isName key = true) : IsWord (key.toList.dropWhile (· == '_')) := by
  have hchars : ∀ c ∈ key.toList, Language.isNameContinue c = true := by
    rw [Language.isName] at hkey
    cases hlist : key.toList with
    | nil => exact fun c hc => absurd hc List.not_mem_nil
    | cons first rest =>
      rw [hlist, Bool.and_eq_true, List.all_eq_true] at hkey
      refine List.forall_mem_cons.mpr ⟨?_, hkey.2⟩
      have hstart := hkey.1
      simp only [Language.isNameStart, Language.isNameContinue, Char.isAlphanum, Bool.or_eq_true] at hstart ⊢
      exact hstart.imp_left Or.inl
  refine ⟨fun c hc => hchars c ((List.dropWhile_sublist _).subset hc), fun hstart => ?_⟩
  have hfirst := List.head?_dropWhile_not (· == '_') key.toList
  rw [hstart] at hfirst
  cases hfirst

/-- Which response keys give a class its name. For every name as a response key: the class has no name exactly if nothing is left
of the key as `keyStem`; its name is an identifier exactly if that begins with a letter, and a reserved word exactly if that spells
a constant as one word. -/
theorem recordClass_usable_iff {key : String} (hkey : Language.isName key = true) :
    (recordClass key = "" ↔ keyStem key = []) ∧
      (isIdentifier (recordClass key) = true ↔ (keyStem key).head?.any Char.isAlpha = true) ∧
      (isReserved (recordClass key) = true ↔ String.ofList (keyStem key) ∈ constantSpellings) := by
  have hword := isWord_of_isName hkey
  have hdropped := hword.of_beginning (dropPlural_beginning _)
  have hclass : recordClass key =
      String.ofList (pascalChars (singular (String.ofList (key.toList.dropWhile (· == '_')))).toList) := rfl
  have hempty : ∀ chars : List Char, String.ofList chars = "" ↔ chars = [] := by simp
  have hstem : ∀ {cs : List Char}, IsWord cs → (cs = [] ↔ dropLastUnderscores cs = []) := fun h => by
    rw [← List.head?_eq_none_iff, ← List.head?_eq_none_iff, h.head?_dropLastUnderscores]
  rw [hclass, hempty, keyStem]
  generalize key.toList.dropWhile (· == '_') = word at hword hdropped
  rcases singular_cases hword.ascii hword.noFeed with hsingular | hinflected
  · rw [hsingular]
    refine ⟨hdropped.pascalChars_eq_nil_iff.trans (hstem hdropped), ?_, hdropped.isReserved_pascalChars⟩
    rw [hdropped.head?_dropLastUnderscores, hdropped.isIdentifier_pascalChars]
  · have hsingular := hinflected.isWord hdropped
    obtain ⟨hne, hne'⟩ := hinflected.ne_nil
    obtain ⟨hnone, hnone'⟩ := hinflected.notMem_constantSpellings
    refine ⟨?_, ?_, ?_⟩
    · exact iff_of_false (mt hsingular.pascalChars_eq_nil_iff.mp hne') (mt (hstem hdropped).mpr hne)
    · rw [hsingular.isIdentifier_pascalChars, hdropped.head?_dropLastUnderscores, hinflected.head?_any_isAlpha]
    · exact iff_of_false (mt hsingular.isReserved_pascalChars.mp hnone') hnone

/-- The text of a class of that name with nothing in it. -/
def emptyClass (name : String) : String :=
  (({} : Writer).declaration name ["GraphQLSelectionSet"] none id).output

theorem recordClass_usable_iff_stories :
    Language.isName "_trueStories" = true ∧ keyStem "_trueStories" = "trueStorie".toList ∧
      recordClass "_trueStories" = "TrueStory" ∧ isIdentifier "TrueStory" = true ∧ isReserved "TrueStory" = false ∧
      Source.isReadable (emptyClass "TrueStory") = true := by
  have hkey : Language.isName "_trueStories" = true := by decide
  have hstem : keyStem "_trueStories" = "trueStorie".toList := by decide +kernel
  have hclass : recordClass "_trueStories" = "TrueStory" := by decide +kernel
  obtain ⟨-, hidentifier, hreserved⟩ := recordClass_usable_iff hkey
  rw [hclass, hstem] at hidentifier hreserved
  refine ⟨hkey, hstem, hclass, hidentifier.mpr (by decide), ?_, by decide +kernel⟩
  exact Bool.eq_false_iff.mpr (mt hreserved.mp (by decide))

/-- Three names whose classes cannot be declared: a constant, no name at all, and a digit. -/
theorem recordClass_unusable :
    (Language.isName "none" = true ∧ recordClass "none" = "None" ∧ isReserved "None" = true ∧
        Source.isReadable (emptyClass "None") = false) ∧
      (Language.isName "s" = true ∧ recordClass "s" = "" ∧ Source.isReadable (emptyClass "") = false) ∧
      (Language.isName "_1" = true ∧ recordClass "_1" = "1" ∧ isIdentifier "1" = false ∧
        Source.isReadable (emptyClass "1") = false) := by
  decide +kernel

end TypedOperations.Naming
