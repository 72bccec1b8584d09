import TypedOperations.Text.LetterCase

/-!
# Letters after a change of case

Letter case is changed by tables, in which one character may become several. No entry of the tables leads from outside ASCII to a
letter of the wrong case or to an underscore, so what is known of ASCII characters holds of all: a text in lower case has no
capitals, an upper-case form has no small letters, and underscores come from underscores only.
-/

namespace TypedOperations.Text

/-- What holds of the ASCII characters, one by one, and of all others, holds of every character. -/
theorem of_ascii {P : Char → Prop} {c : Char} (hascii : ∀ n < 128, P (Char.ofNat n)) (hbeyond : 128 ≤ c.toNat → P c) : P c := by
  by_cases h : c.toNat < 128
  · have hc := hascii c.toNat h
    rwa [Char.ofNat_toNat] at hc
  · exact hbeyond (Nat.le_of_not_lt h)

theorem isUpper_iff {c : Char} : c.isUpper = true ↔ 65 ≤ c.toNat ∧ c.toNat ≤ 90 := by
  change decide (c.val ≥ 65 ∧ c.val ≤ 90) = true ↔ _
  simp [UInt32.le_iff_toNat_le]

theorem isLower_iff {c : Char} : c.isLower = true ↔ 97 ≤ c.toNat ∧ c.toNat ≤ 122 := by
  change (decide (c.val ≥ 97) && decide (c.val ≤ 122)) = true ↔ _
  simp [UInt32.le_iff_toNat_le]

theorem isAlpha_eq (c : Char) : c.isAlpha = (c.isUpper || c.isLower) := rfl

theorem isLower_of_isUpper {c : Char} (h : c.isUpper = true) : c.isLower = false := by
  rw [isUpper_iff] at h
  rw [Bool.eq_false_iff, ne_eq, isLower_iff]
  omega

theorem isUpper_of_isLower {c : Char} (h : c.isLower = true) : c.isUpper = false := by
  rw [isLower_iff] at h
  rw [Bool.eq_false_iff, ne_eq, isUpper_iff]
  omega

/-! ## Letters of ASCII -/

section
variable {c : Char}

theorem toLower_eq_self (h : c.isUpper = false) : c.toLower = c :=
  dif_neg fun hc => Bool.eq_false_iff.mp h (decide_eq_true hc)

theorem toUpper_eq_self (h : c.isLower = false) : c.toUpper = c :=
  dif_neg fun hc => Bool.eq_false_iff.mp h (Bool.and_eq_true_iff.mpr ⟨decide_eq_true hc.1, decide_eq_true hc.2⟩)

/-- No letter beyond ASCII has a case that a single character can be changed to. -/
theorem caseless_of_beyond (hc : 128 ≤ c.toNat) : c.isUpper = false ∧ c.isLower = false ∧ c.toLower = c ∧ c.toUpper = c := by
  have hupper : c.isUpper = false := by
    rw [Bool.eq_false_iff, ne_eq, isUpper_iff]
    omega
  have hlower : c.isLower = false := by
    rw [Bool.eq_false_iff, ne_eq, isLower_iff]
    omega
  exact ⟨hupper, hlower, toLower_eq_self hupper, toUpper_eq_self hlower⟩

/-- A change of case keeps letters letters, and the last change decides. -/
theorem letterCase (c : Char) :
    (c.toLower.toLower = c.toLower ∧ c.toUpper.toLower = c.toLower ∧ c.toLower.toUpper = c.toUpper) ∧
      c.toLower.isAlpha = c.isAlpha ∧ c.toUpper.isAlpha = c.isAlpha ∧ c.toLower.isLower = c.isAlpha :=
  of_ascii (P := fun c => (c.toLower.toLower = c.toLower ∧ c.toUpper.toLower = c.toLower ∧ c.toLower.toUpper = c.toUpper) ∧
      c.toLower.isAlpha = c.isAlpha ∧ c.toUpper.isAlpha = c.isAlpha ∧ c.toLower.isLower = c.isAlpha)
    (by decide +kernel) fun h => by simp [caseless_of_beyond h, isAlpha_eq]

@[simp] theorem toLower_toLower (c : Char) : c.toLower.toLower = c.toLower := (letterCase c).1.1

@[simp] theorem toLower_toUpper (c : Char) : c.toUpper.toLower = c.toLower := (letterCase c).1.2.1

@[simp] theorem toUpper_toLower (c : Char) : c.toLower.toUpper = c.toUpper := (letterCase c).1.2.2

@[simp] theorem isAlpha_toLower (c : Char) : c.toLower.isAlpha = c.isAlpha := (letterCase c).2.1

@[simp] theorem isAlpha_toUpper (c : Char) : c.toUpper.isAlpha = c.isAlpha := (letterCase c).2.2.1

theorem isLower_toLower (c : Char) : c.toLower.isLower = c.isAlpha := (letterCase c).2.2.2

/-- Only a capital is another character in lower case, and becomes a small letter. -/
theorem eq_of_toLower {d : Char} (h : c.toLower = d) (hd : d.isLower = false) : c = d := by
  have hsmall := isLower_toLower c
  rw [h, hd, isAlpha_eq, eq_comm, Bool.or_eq_false_iff] at hsmall
  rw [← h, toLower_eq_self hsmall.1]

/-- In lower case, a character of ASCII is one of ASCII. -/
theorem toLower_ascii (h : c.toNat < 128) : c.toLower.toNat < 128 := by
  by_cases hc : c.isUpper = true
  · have hsmall : c.toLower.isLower = true := by rw [isLower_toLower, isAlpha_eq, hc, Bool.true_or]
    rw [isLower_iff] at hsmall
    omega
  · rwa [toLower_eq_self (Bool.eq_false_iff.mpr hc)]

end

/-! ## Tables -/

section
variable {special : List (Nat × List Nat)} {runs : List (Nat × Nat × Nat × Nat)}

/-- Mapped by a table, a character outside ASCII gives none of the characters in a range that nothing outside ASCII is mapped
to. -/
theorem mapByTable_avoids (lo hi : Nat) (hlo : 0 < lo) (hhi : hi < 128)
    (hspecial : ∀ e ∈ special, ∀ n ∈ e.2, n < lo ∨ hi < n)
    (hruns : ∀ r ∈ runs, r.2.1 < 128 ∨ hi < r.2.2.2 ∨ r.2.2.2 + (r.2.1 - r.1) < lo) {c : Char} (hc : 128 ≤ c.toNat) :
    ∀ d ∈ mapByTable special runs c, d.toNat < lo ∨ hi < d.toNat := by
  have hchar : ∀ n : Nat, n < lo ∨ hi < n → (Char.ofNat n).toNat < lo ∨ hi < (Char.ofNat n).toNat := by
    intro n hn
    by_cases hvalid : n.isValidChar
    · have hcode : (Char.ofNat n).toNat = n := congrArg Char.toNat (dif_pos hvalid)
      rwa [hcode]
    · have hcode : (Char.ofNat n).toNat = 0 := congrArg Char.toNat (dif_neg hvalid)
      exact Or.inl (hcode ▸ hlo)
  intro d hd
  unfold mapByTable at hd
  split at hd
  · rename_i image himage
    obtain ⟨n, hn, rfl⟩ := List.mem_map.mp hd
    obtain ⟨before, after, rfl, -⟩ := List.lookup_eq_some_iff.mp himage
    exact hchar n (hspecial _ (List.mem_append_right _ List.mem_cons_self) n hn)
  · split at hd
    · rename_i n hn
      rw [List.mem_singleton.mp hd]
      obtain ⟨⟨first, last, stride, image⟩, hr, himage⟩ := List.exists_of_findSome?_eq_some hn
      have hrun := hruns _ hr
      simp only [runImage] at himage
      split at himage
      · rename_i hin
        cases himage
        simp only [Bool.and_eq_true, decide_eq_true_eq] at hin
        dsimp only at hrun
        refine hchar _ ?_
        omega
      · cases himage
    · rw [List.mem_singleton.mp hd]
      omega

/-- A change of case takes each character to what ASCII is taken to, or to what lies outside a range that the tables avoid. -/
theorem of_mem_changed {P : Char → Char → Prop} (lo hi : Nat) {change : Char → Char}
    (hascii : ∀ n < 128, P (Char.ofNat n) (change (Char.ofNat n))) (hlo : 0 < lo) (hhi : hi < 128)
    (hspecial : ∀ e ∈ special, ∀ n ∈ e.2, n < lo ∨ hi < n)
    (hruns : ∀ r ∈ runs, r.2.1 < 128 ∨ hi < r.2.2.2 ∨ r.2.2.2 + (r.2.1 - r.1) < lo)
    (houtside : ∀ c d : Char, d.toNat < lo ∨ hi < d.toNat → P c d) {c d : Char}
    (h : d ∈ if c.toNat < 128 then [change c] else mapByTable special runs c) : P c d := by
  split at h
  · rename_i hc
    rw [List.mem_singleton.mp h]
    have hchar := hascii c.toNat hc
    rwa [Char.ofNat_toNat] at hchar
  · rename_i hc
    exact houtside c d (mapByTable_avoids lo hi hlo hhi hspecial hruns (Nat.le_of_not_lt hc) d h)

/-- A change of case leaves no character out. -/
theorem changed_ne_nil {change : Char → Char} (hspecial : ∀ e ∈ special, e.2 ≠ []) (c : Char) :
    (if c.toNat < 128 then [change c] else mapByTable special runs c) ≠ [] := by
  split
  · exact List.cons_ne_nil _ _
  · unfold mapByTable
    split
    · rename_i image himage
      obtain ⟨before, after, rfl, -⟩ := List.lookup_eq_some_iff.mp himage
      have hne := hspecial _ (List.mem_append_right _ List.mem_cons_self)
      simpa using hne
    · split <;> exact List.cons_ne_nil _ _

end

variable {c d : Char}

/-- No lower-case form has a capital in it. -/
theorem isUpper_of_mem_lowerChar (h : d ∈ lowerChar c) : d.isUpper = false := by
  refine of_mem_changed (P := fun _ d => d.isUpper = false) 65 90 (by decide) (by decide) (by decide) (by decide +kernel)
    (by decide +kernel) (fun _ d houtside => ?_) h
  rw [Bool.eq_false_iff, ne_eq, isUpper_iff]
  omega

/-- No upper-case form has a small letter in it. -/
theorem isLower_of_mem_upperChar (h : d ∈ upperChar c) : d.isLower = false := by
  refine of_mem_changed (P := fun _ d => d.isLower = false) 97 122 (by decide) (by decide) (by decide) (by decide +kernel)
    (by decide +kernel) (fun _ d houtside => ?_) h
  rw [Bool.eq_false_iff, ne_eq, isLower_iff]
  omega

/-- Only an underscore has one in its lower-case form, and likewise an opening bracket. -/
theorem eq_of_mem_lowerChar {m : Char} (hm : m = '_' ∨ m = '[') (h : m ∈ lowerChar c) : c = m := by
  rcases hm with rfl | rfl
  · exact of_mem_changed (P := fun c d => d = '_' → c = '_') 95 95 (by decide) (by decide) (by decide) (by decide +kernel)
      (by decide +kernel) (fun _ d houtside hd => absurd houtside (by rw [hd]; decide)) h rfl
  · exact of_mem_changed (P := fun c d => d = '[' → c = '[') 91 91 (by decide) (by decide) (by decide) (by decide +kernel)
      (by decide +kernel) (fun _ d houtside hd => absurd houtside (by rw [hd]; decide)) h rfl

theorem eq_of_mem_upperChar {m : Char} (hm : m = '_' ∨ m = '[') (h : m ∈ upperChar c) : c = m := by
  rcases hm with rfl | rfl
  · exact of_mem_changed (P := fun c d => d = '_' → c = '_') 95 95 (by decide) (by decide) (by decide) (by decide +kernel)
      (by decide +kernel) (fun _ d houtside hd => absurd houtside (by rw [hd]; decide)) h rfl
  · exact of_mem_changed (P := fun c d => d = '[' → c = '[') 91 91 (by decide) (by decide) (by decide) (by decide +kernel)
      (by decide +kernel) (fun _ d houtside hd => absurd houtside (by rw [hd]; decide)) h rfl

/-- Only ASCII letters have a letter from `s` to `y` in their lower-case form. -/
theorem isLetter_of_lowerChar (h : d ∈ lowerChar c) (hlo : 115 ≤ d.toNat) (hhi : d.toNat ≤ 121) :
    c.isUpper = true ∨ c.isLower = true :=
  of_mem_changed (P := fun c d => 115 ≤ d.toNat → d.toNat ≤ 121 → c.isUpper = true ∨ c.isLower = true) 115 121 (by decide)
    (by decide) (by decide) (by decide +kernel) (by decide +kernel) (fun _ d houtside hlo hhi => by omega) h hlo hhi

theorem lowerChar_ne_nil (c : Char) : lowerChar c ≠ [] :=
  changed_ne_nil (by decide) c

theorem upperChar_ne_nil (c : Char) : upperChar c ≠ [] :=
  changed_ne_nil (by decide) c

/-- What a character of a text becomes in lower case, between the characters before it and those after it. -/
def lowerImage (before : List Char) (c : Char) (rest : List Char) : List Char :=
  if c.toNat == 0x3A3 then [if startsCased before && !startsCased rest then Char.ofNat 0x3C2 else Char.ofNat 0x3C3]
  else lowerChar c

theorem lowerFrom_cons (before : List Char) (c : Char) (rest : List Char) :
    lowerFrom before (c :: rest) = lowerImage before c rest ++ lowerFrom (c :: before) rest := rfl

/-- In lower case a character becomes its lower-case form, apart from a sigma. -/
theorem mem_lowerImage {before rest : List Char} (h : d ∈ lowerImage before c rest) :
    d ∈ lowerChar c ∨ 128 ≤ c.toNat ∧ 128 ≤ d.toNat := by
  unfold lowerImage at h
  split at h
  · rename_i hsigma
    right
    rw [beq_iff_eq.mp hsigma, List.mem_singleton.mp h]
    refine ⟨by decide, ?_⟩
    split <;> decide
  · exact Or.inl h

theorem lowerImage_ne_nil (before : List Char) (c : Char) (rest : List Char) : lowerImage before c rest ≠ [] := by
  unfold lowerImage
  split
  · exact List.cons_ne_nil _ _
  · exact lowerChar_ne_nil c

/-- An ASCII text is put in lower case character by character. -/
theorem lowerFrom_of_ascii (cs : List Char) :
    ∀ {before : List Char}, (∀ c ∈ cs, c.toNat < 128) → lowerFrom before cs = cs.map Char.toLower := by
  induction cs with
  | nil => exact fun _ => rfl
  | cons c rest ih =>
    intro before hascii
    obtain ⟨hc, hrest⟩ := List.forall_mem_cons.mp hascii
    have himage : lowerImage before c rest = [c.toLower] := by
      rw [lowerImage, if_neg, lowerChar, if_pos hc]
      rw [beq_iff_eq]
      omega
    rw [lowerFrom_cons, himage, ih hrest, List.singleton_append, List.map_cons]

/-- A text in lower case has no capitals. -/
theorem isUpper_of_mem_lowerFrom (cs : List Char) : ∀ {before : List Char}, d ∈ lowerFrom before cs → d.isUpper = false := by
  induction cs with
  | nil => exact fun h => absurd h List.not_mem_nil
  | cons c rest ih =>
    intro before h
    rw [lowerFrom_cons] at h
    rcases List.mem_append.mp h with h | h
    · rcases mem_lowerImage h with h | ⟨-, h⟩
      · exact isUpper_of_mem_lowerChar h
      · rw [Bool.eq_false_iff, ne_eq, isUpper_iff]
        omega
    · exact ih h

/-- A text in lower case has an opening bracket only if the text has. -/
theorem bracket_mem_of_lowerFrom (cs : List Char) : ∀ {before : List Char}, '[' ∈ lowerFrom before cs → '[' ∈ cs := by
  induction cs with
  | nil => exact fun h => h
  | cons c rest ih =>
    intro before h
    rw [lowerFrom_cons] at h
    rcases List.mem_append.mp h with h | h
    · rcases mem_lowerImage h with h | ⟨-, h⟩
      · rw [eq_of_mem_lowerChar (Or.inr rfl) h]
        exact List.mem_cons_self
      · exact absurd h (by decide)
    · exact List.mem_cons_of_mem c (ih h)

/-- A text in lower case ends in an underscore only if the text does. -/
theorem getLast?_of_lowerFrom (cs : List Char) :
    ∀ {before : List Char}, (lowerFrom before cs).getLast? = some '_' → cs.getLast? = some '_' := by
  induction cs with
  | nil => exact fun h => absurd h (by simp [lowerFrom])
  | cons c rest ih =>
    intro before h
    rw [lowerFrom_cons, List.getLast?_append] at h
    cases rest with
    | nil =>
      rcases mem_lowerImage (List.mem_of_getLast? h) with h | ⟨-, h⟩
      · rw [eq_of_mem_lowerChar (Or.inl rfl) h]
        rfl
      · exact absurd h (by decide)
    | cons next more =>
      have hne : lowerFrom (c :: before) (next :: more) ≠ [] := by
        rw [lowerFrom_cons]
        simp [lowerImage_ne_nil]
      obtain ⟨last, hlast⟩ := Option.isSome_iff_exists.mp (List.getLast?_isSome.mpr hne)
      rw [hlast, Option.some_or, ← hlast] at h
      rw [List.getLast?_cons_cons]
      exact ih h

end TypedOperations.Text
