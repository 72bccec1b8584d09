import TypedOperations.Number.Decimal
import TypedOperations.Proofs.Number.Nearest
import TypedOperations.Proofs.Text.Lines

/-!
# What numerals spell

The integers and the decimal fractions that texts spell, digit by digit, and that reading gives them: an integer is read as
what it spells (`SpellsInt.intOfText`), and a decimal fraction to the nearest number of double precision
(`SpellsDecimal.binary64OfText`).
-/

namespace TypedOperations.Decimal

/-- Digits spell a natural number: each place is worth ten of the next. -/
inductive SpellsNat : List Char → Nat → Prop where
  | digit {d : Nat} : d < 10 → SpellsNat [d.digitChar] d
  | more {cs : List Char} {n d : Nat} : SpellsNat cs n → d < 10 → SpellsNat (cs ++ [d.digitChar]) (10 * n + d)

/-- Digits, maybe after a minus, spell an integer. -/
inductive SpellsInt : List Char → Int → Prop where
  | natural {cs : List Char} {n : Nat} : SpellsNat cs n → SpellsInt cs n
  | minus {cs : List Char} {n : Nat} : SpellsNat cs n → SpellsInt ('-' :: cs) (-n)

/-- A point and digits spell a fraction; so does nothing. -/
inductive SpellsFraction : List Char → ℚ → Prop where
  | none : SpellsFraction [] 0
  | point {cs : List Char} {n : Nat} : SpellsNat cs n → SpellsFraction ('.' :: cs) (n / 10 ^ cs.length)

/-- A letter and an integer spell the exponent of ten; so does nothing. -/
inductive SpellsExponent : List Char → Int → Prop where
  | none : SpellsExponent [] 0
  | letter {c : Char} {cs : List Char} {i : Int} : c = 'e' ∨ c = 'E' → SpellsInt cs i → SpellsExponent (c :: cs) i
  | plus {c : Char} {cs : List Char} {n : Nat} : c = 'e' ∨ c = 'E' → SpellsNat cs n → SpellsExponent (c :: '+' :: cs) n

/-- Digits, a fraction and an exponent spell a magnitude. -/
inductive SpellsMagnitude : List Char → ℚ → Prop where
  | mk {whole fraction exponent : List Char} {n : Nat} {f : ℚ} {e : Int} : SpellsNat whole n → SpellsFraction fraction f →
      SpellsExponent exponent e → SpellsMagnitude (whole ++ (fraction ++ exponent)) ((n + f) * 10 ^ e)

/-- A decimal fraction: whether it has a minus, and its magnitude. -/
inductive SpellsDecimal : List Char → Bool → ℚ → Prop where
  | plain {cs : List Char} {r : ℚ} : SpellsMagnitude cs r → SpellsDecimal cs false r
  | minus {cs : List Char} {r : ℚ} : SpellsMagnitude cs r → SpellsDecimal ('-' :: cs) true r

theorem SpellsNat.isDigit {cs : List Char} {n : Nat} (h : SpellsNat cs n) : ∀ c ∈ cs, c.isDigit = true := by
  have hdigit : ∀ d < 10, d.digitChar.isDigit = true := by decide
  induction h with
  | digit hd => simpa using hdigit _ hd
  | more _ hd ih =>
    intro c hc
    rcases List.mem_append.mp hc with hc | hc
    · exact ih c hc
    · rw [List.mem_singleton.mp hc]
      exact hdigit _ hd

theorem SpellsNat.ne_nil {cs : List Char} {n : Nat} (h : SpellsNat cs n) : cs ≠ [] := by
  cases h <;> simp

theorem natOfDigits_append_singleton (cs : List Char) (c : Char) :
    natOfDigits (cs ++ [c]) = 10 * natOfDigits cs + digitValue c := by
  simp [natOfDigits]

/-- Reading digits gives what they spell. -/
theorem SpellsNat.natOfDigits {cs : List Char} {n : Nat} (h : SpellsNat cs n) : natOfDigits cs = n := by
  have hvalue : ∀ d < 10, digitValue d.digitChar = d := by decide
  induction h with
  | digit hd => simp [Decimal.natOfDigits, hvalue _ hd]
  | more _ hd ih => rw [natOfDigits_append_singleton, ih, hvalue _ hd]

theorem digitChar_digitValue {c : Char} (h : c.isDigit = true) : c = (digitValue c).digitChar ∧ digitValue c < 10 := by
  have hrange : 48 ≤ c.toNat ∧ c.toNat ≤ 57 := by
    simpa [Char.isDigit, UInt32.le_iff_toNat_le] using h
  have hall : ∀ n < 10, Char.ofNat (48 + n) = n.digitChar := by decide
  have hc := hall (c.toNat - 48) (by omega)
  rw [Nat.add_sub_cancel' hrange.1, Char.ofNat_toNat] at hc
  exact ⟨hc, by rw [digitValue]; omega⟩

/-- Digits spell the number that they are read as. -/
theorem spellsNat_of_isDigit {cs : List Char} (hne : cs ≠ []) (h : ∀ c ∈ cs, c.isDigit = true) :
    SpellsNat cs (Decimal.natOfDigits cs) := by
  induction cs using List.reverseRecOn with
  | nil => exact absurd rfl hne
  | append_singleton cs c ih =>
    have hc : c = (digitValue c).digitChar ∧ digitValue c < 10 := digitChar_digitValue (h c (by simp))
    have hcs : ∀ c ∈ cs, c.isDigit = true := fun d hd => h d (by simp [hd])
    by_cases hnil : cs = []
    · subst hnil
      have hone : SpellsNat [(digitValue c).digitChar] (digitValue c) := .digit hc.2
      rw [← hc.1] at hone
      simpa [Decimal.natOfDigits] using hone
    · have hmore : SpellsNat (cs ++ [(digitValue c).digitChar]) (10 * Decimal.natOfDigits cs + digitValue c) :=
        .more (ih hnil hcs) hc.2
      rwa [← hc.1, ← natOfDigits_append_singleton] at hmore

theorem natOfDigits_append (cs ds : List Char) :
    natOfDigits (cs ++ ds) = natOfDigits cs * 10 ^ ds.length + natOfDigits ds := by
  induction ds using List.reverseRecOn with
  | nil => simp [natOfDigits]
  | append_singleton ds c ih =>
    rw [← List.append_assoc, natOfDigits_append_singleton, ih, natOfDigits_append_singleton, List.length_append,
      List.length_singleton]
    ring

/-! ## Reading integers -/

theorem SpellsNat.spanSign {cs : List Char} {n : Nat} (h : SpellsNat cs n) (rest : List Char) :
    spanSign (cs ++ rest) = (false, cs ++ rest) := by
  obtain ⟨c, more, rfl⟩ := List.exists_cons_of_ne_nil h.ne_nil
  have hc : c.isDigit = true := h.isDigit c List.mem_cons_self
  have hminus : c ≠ '-' := by rintro rfl; cases hc
  have hplus : c ≠ '+' := by rintro rfl; cases hc
  rw [List.cons_append]
  unfold Decimal.spanSign
  split
  · simp_all
  · simp_all
  · rfl

/-- The integer of a text is the one it spells. -/
theorem SpellsInt.intOfText {s : String} {i : Int} (h : SpellsInt s.toList i) : intOfText s = i := by
  rw [Decimal.intOfText]
  generalize s.toList = cs at h
  cases h with
  | natural h =>
    have hsign := h.spanSign []
    rw [List.append_nil] at hsign
    simp [hsign, h.natOfDigits]
  | minus h => simp [Decimal.spanSign, h.natOfDigits]

/-! ## Reading fractions -/

/-- Digits are taken up to the first character that is none. -/
theorem spanDigits_append {ds rest : List Char} (hds : ∀ c ∈ ds, c.isDigit = true)
    (hrest : rest.head?.all (fun c => !c.isDigit) = true) : spanDigits (ds ++ rest) = (ds, rest) := by
  have hnone : rest.takeWhile Char.isDigit = [] ∧ rest.dropWhile Char.isDigit = rest := by
    cases rest with
    | nil => exact ⟨rfl, rfl⟩
    | cons c more =>
      have hc : c.isDigit = false := by simpa using hrest
      exact ⟨by rw [List.takeWhile_cons_of_neg (by simp [hc])], by rw [List.dropWhile_cons_of_neg (by simp [hc])]⟩
  rw [spanDigits, List.takeWhile_append_of_pos hds, List.dropWhile_append_of_pos hds, hnone.1, hnone.2, List.append_nil]

theorem SpellsNat.spanDigits {cs : List Char} {n : Nat} (h : SpellsNat cs n) : spanDigits cs = (cs, []) := by
  simpa using @spanDigits_append cs [] h.isDigit rfl

theorem SpellsExponent.exponentOf {cs : List Char} {e : Int} (h : SpellsExponent cs e) : exponentOf cs = some e := by
  cases h with
  | none => rfl
  | @letter c cs i hc h =>
    have hletter : (c == 'e' || c == 'E') = true := by simpa using hc
    rw [Decimal.exponentOf, if_pos hletter]
    cases h with
    | natural h =>
      have hsign := h.spanSign []
      rw [List.append_nil] at hsign
      simp [hsign, h.spanDigits, h.ne_nil, h.natOfDigits]
    | minus h => simp [Decimal.spanSign, h.spanDigits, h.ne_nil, h.natOfDigits]
  | @plus c cs n hc h =>
    have hletter : (c == 'e' || c == 'E') = true := by simpa using hc
    rw [Decimal.exponentOf, if_pos hletter]
    simp [Decimal.spanSign, h.spanDigits, h.ne_nil, h.natOfDigits]

/-- Neither a digit nor a point starts an exponent. -/
theorem SpellsExponent.head {cs : List Char} {e : Int} (h : SpellsExponent cs e) :
    cs.head?.all (fun c => !c.isDigit && c != '.') = true := by
  cases h with
  | none => rfl
  | letter hc => rcases hc with rfl | rfl <;> rfl
  | plus hc => rcases hc with rfl | rfl <;> rfl

/-- A magnitude is read to the nearest number. -/
theorem SpellsMagnitude.unsignedOfChars {cs : List Char} {r : ℚ} (h : SpellsMagnitude cs r) (negative : Bool) :
    ∃ x, unsignedOfChars negative cs = some x ∧ Binary64.Nearest negative r x := by
  obtain @⟨whole, fraction, exponent, n, f, e, hwhole, hfraction, hexponent⟩ := h
  have hhead : exponent.head?.all (fun c => !c.isDigit) = true := by
    have := hexponent.head
    cases exponent <;> simp_all
  cases hfraction with
  | none =>
    have hpoint : ∀ rest, exponent ≠ '.' :: rest := by
      rintro rest rfl
      exact absurd hexponent.head (by simp)
    refine ⟨Binary64.ofDecimal negative n e, ?_, ?_⟩
    · simp only [List.nil_append, Decimal.unsignedOfChars, spanDigits_append hwhole.isDigit hhead]
      simp [hwhole.ne_nil, hexponent.exponentOf, hwhole.natOfDigits]
    · simpa using Binary64.ofDecimal_nearest negative n e
  | @point fs f hfs =>
    refine ⟨Binary64.ofDecimal negative (n * 10 ^ fs.length + f) (e - fs.length), ?_, ?_⟩
    · have hspan := @spanDigits_append whole ('.' :: (fs ++ exponent)) hwhole.isDigit rfl
      simp [Decimal.unsignedOfChars, hspan, spanDigits_append hfs.isDigit hhead, hwhole.ne_nil, hexponent.exponentOf,
        natOfDigits_append, hwhole.natOfDigits, hfs.natOfDigits]
    · have hvalue : ((n : ℚ) + f / 10 ^ fs.length) * 10 ^ e =
          ((n * 10 ^ fs.length + f : Nat) : ℚ) * 10 ^ (e - fs.length : Int) := by
        rw [zpow_sub₀ (by norm_num), zpow_natCast]
        push_cast
        field_simp
      rw [hvalue]
      exact Binary64.ofDecimal_nearest negative _ _

/-! ## Plain characters -/

/-- The characters of numerals. -/
def isNumeralChar (c : Char) : Bool :=
  c.isDigit || ['+', '-', '.', 'E', 'e'].contains c

theorem isNumeralChar_ascii {c : Char} (h : isNumeralChar c = true) : c.toNat < 128 := by
  simp only [isNumeralChar, Bool.or_eq_true, List.contains_iff_mem] at h
  rcases h with h | h
  · have : c.toNat ≤ 57 := (by simpa [Char.isDigit, UInt32.le_iff_toNat_le] using h : 48 ≤ c.toNat ∧ c.toNat ≤ 57).2
    omega
  · simp only [List.mem_cons, List.not_mem_nil, or_false] at h
    rcases h with rfl | rfl | rfl | rfl | rfl <;> decide

/-- The characters of numerals are plain, and neither blanks nor underscores. -/
theorem plain_of_isNumeralChar {c : Char} (h : isNumeralChar c = true) :
    plainDigit c = c ∧ Text.isBlank c = false ∧ c ≠ '_' := by
  have hall : ∀ n < 128, isNumeralChar (Char.ofNat n) = true →
      plainDigit (Char.ofNat n) = Char.ofNat n ∧ Text.isBlank (Char.ofNat n) = false ∧ Char.ofNat n ≠ '_' := by
    decide
  have hc := hall c.toNat (isNumeralChar_ascii h)
  rw [Char.ofNat_toNat] at hc
  exact hc h

theorem isNumeralChar_of_isDigit {c : Char} (h : c.isDigit = true) : isNumeralChar c = true := by
  simp [isNumeralChar, h]

theorem SpellsNat.isNumeralChar {cs : List Char} {n : Nat} (h : SpellsNat cs n) : ∀ c ∈ cs, isNumeralChar c = true :=
  fun c hc => isNumeralChar_of_isDigit (h.isDigit c hc)

theorem SpellsExponent.isNumeralChar {cs : List Char} {e : Int} (h : SpellsExponent cs e) :
    ∀ c ∈ cs, isNumeralChar c = true := by
  have hletter : ∀ {c : Char}, c = 'e' ∨ c = 'E' → Decimal.isNumeralChar c = true := by rintro c (rfl | rfl) <;> rfl
  cases h with
  | none => exact fun _ h => absurd h List.not_mem_nil
  | letter hc h =>
    cases h with
    | natural h => exact List.forall_mem_cons.mpr ⟨hletter hc, h.isNumeralChar⟩
    | minus h => exact List.forall_mem_cons.mpr ⟨hletter hc, List.forall_mem_cons.mpr ⟨rfl, h.isNumeralChar⟩⟩
  | plus hc h => exact List.forall_mem_cons.mpr ⟨hletter hc, List.forall_mem_cons.mpr ⟨rfl, h.isNumeralChar⟩⟩

theorem SpellsFraction.isNumeralChar {cs : List Char} {f : ℚ} (h : SpellsFraction cs f) :
    ∀ c ∈ cs, isNumeralChar c = true := by
  cases h with
  | none => exact fun _ h => absurd h List.not_mem_nil
  | point h => exact List.forall_mem_cons.mpr ⟨rfl, h.isNumeralChar⟩

theorem SpellsMagnitude.isNumeralChar {cs : List Char} {r : ℚ} (h : SpellsMagnitude cs r) :
    ∀ c ∈ cs, isNumeralChar c = true := by
  obtain ⟨hwhole, hfraction, hexponent⟩ := h
  simp only [List.forall_mem_append]
  exact ⟨hwhole.isNumeralChar, hfraction.isNumeralChar, hexponent.isNumeralChar⟩

/-- Without underscores, none is taken out. -/
theorem dropUnderscores_eq_self {cs : List Char} (hcs : '_' ∉ cs) :
    ∀ {previous : Char}, previous ≠ '_' → dropUnderscores previous cs = some cs := by
  induction cs with
  | nil => intro previous h; simp [dropUnderscores, h]
  | cons c rest ih =>
    intro previous h
    rw [List.mem_cons, not_or] at hcs
    have hc : c ≠ '_' := Ne.symm hcs.1
    simp [dropUnderscores, hc, h, ih hcs.2 hc]

/-- A text that starts with a digit does so in lower case. -/
theorem head?_lower {c : Char} (hc : c.isDigit = true) (more : List Char) : (Text.lower (c :: more)).head? = some c := by
  have hdigit : ∀ d < 10, Text.lowerChar d.digitChar = [d.digitChar] ∧ ¬(d.digitChar.toNat == 0x3A3) = true := by decide
  obtain ⟨heq, hlt⟩ := digitChar_digitValue hc
  obtain ⟨hlower, hsigma⟩ := hdigit _ hlt
  rw [← heq] at hlower hsigma
  simp only [Text.lower, Text.lowerFrom, if_neg hsigma, hlower]
  rfl

/-- A text that starts with a digit is not a word in lower case. -/
theorem lower_ne_of_isDigit {c : Char} (hc : c.isDigit = true) (more : List Char) (word : String)
    (hword : word.toList.head?.all (fun d => !d.isDigit) = true) : String.ofList (Text.lower (c :: more)) ≠ word := by
  rintro rfl
  rw [String.toList_ofList, head?_lower hc, Option.all_some, hc] at hword
  cases hword

/-- A magnitude starts with a digit. -/
theorem SpellsMagnitude.exists_cons {cs : List Char} {r : ℚ} (h : SpellsMagnitude cs r) :
    ∃ c more, cs = c :: more ∧ c.isDigit = true := by
  obtain ⟨hwhole, -, -⟩ := h
  obtain ⟨c, more, rfl⟩ := List.exists_cons_of_ne_nil hwhole.ne_nil
  exact ⟨c, _, rfl, hwhole.isDigit c List.mem_cons_self⟩

/-- A decimal fraction is read to the nearest number. -/
theorem SpellsDecimal.binary64OfText {s : String} {negative : Bool} {r : ℚ} (h : SpellsDecimal s.toList negative r) :
    ∃ x, binary64OfText? s = some x ∧ Binary64.Nearest negative r x := by
  have hchars : ∀ c ∈ s.toList, isNumeralChar c = true := by
    generalize s.toList = cs at h
    cases h with
    | plain h => exact h.isNumeralChar
    | minus h => exact List.forall_mem_cons.mpr ⟨rfl, h.isNumeralChar⟩
  -- nothing of the text is changed before it is read
  have hplain : dropUnderscores ' ' ((Text.trim s.toList).map plainDigit) = some s.toList := by
    rw [Text.trim_eq_self fun c hc => (plain_of_isNumeralChar (hchars c hc)).2.1,
      (List.map_congr_left fun c hc => (plain_of_isNumeralChar (hchars c hc)).1).trans (List.map_id' _)]
    exact dropUnderscores_eq_self (fun hc => (plain_of_isNumeralChar (hchars _ hc)).2.2 rfl) (by decide)
  have hread : ∀ {cs : List Char} {r : ℚ} (negative : Bool), SpellsMagnitude cs r → spanSign s.toList = (negative, cs) →
      ∃ x, binary64OfText? s = some x ∧ Binary64.Nearest negative r x := by
    intro cs r negative h hsign
    obtain ⟨c, more, rfl, hc⟩ := h.exists_cons
    obtain ⟨x, hx, hnear⟩ := h.unsignedOfChars negative
    refine ⟨x, ?_, hnear⟩
    simp [binary64OfText?, hplain, hsign, lower_ne_of_isDigit hc more "inf" rfl,
      lower_ne_of_isDigit hc more "infinity" rfl, lower_ne_of_isDigit hc more "nan" rfl, hx]
  generalize hs : s.toList = cs at h hread
  cases h with
  | plain h =>
    refine hread false h ?_
    obtain ⟨hwhole, -, -⟩ := h
    exact hwhole.spanSign _
  | minus h => exact hread true h rfl

end TypedOperations.Decimal
