import TypedOperations.Proofs.Source.Token

/-!
# Numerals of whole numbers

The decimal digits of a whole number are one numeral of the text of a module, before anything that cannot belong to a number, and
the digits stand for the number.
-/

namespace TypedOperations.Source

variable {rest : List Char}

/-- Neither a word nor a number goes on with the text, and it opens no string. -/
def EndsNumber (rest : List Char) : Prop :=
  ∀ c ∈ rest.head?, isWordChar c = false ∧ isQuote c = false ∧ c ≠ '.'

theorem EndsNumber.endsWord (h : EndsNumber rest) : EndsWord rest := fun c hc => ⟨(h c hc).1, (h c hc).2.1⟩

/-- None of these letters comes first where a number has ended. -/
theorem EndsNumber.ne_letter {c : Char} {more letters : List Char} (h : EndsNumber (c :: more))
    (hletters : letters.all isWordChar = true) : ∀ l ∈ letters, c ≠ l := by
  rintro l hl rfl
  have hword := (h c rfl).1
  rw [List.all_eq_true.mp hletters c hl] at hword
  cases hword

theorem isWordChar_of_isDigit {c : Char} (hc : c.isDigit = true) : isWordChar c = true := by
  simp [isWordChar, Char.isAlphanum, hc]

theorem natOfDigits_toDigits (n : Nat) : Decimal.natOfDigits (Nat.toDigits 10 n) = n := by
  have h := Nat.ofDigitChars_ten_toDigits (n := n)
  rw [Nat.ofDigitChars_eq_foldl] at h
  exact h

/-- Numbers that are written alike are equal. -/
theorem toString_inj {a b : Nat} (h : toString a = toString b) : a = b := by
  rw [Nat.toString_eq_repr, Nat.toString_eq_repr, Nat.repr_eq_ofList_toDigits, Nat.repr_eq_ofList_toDigits,
    String.ofList_inj] at h
  rw [← natOfDigits_toDigits a, h, natOfDigits_toDigits]

/-- The first digit of a number is not zero, unless the number is. -/
theorem exists_firstDigit {n : Nat} (hn : n ≠ 0) : ∃ c more, Nat.toDigits 10 n = c :: more ∧ c ≠ '0' := by
  induction n using Nat.strongRecOn with
  | _ n ih =>
    rw [Nat.toDigits_eq_if (by decide)]
    split
    · rename_i hlt
      refine ⟨n.digitChar, [], rfl, ?_⟩
      have hdigits : ∀ m < 10, m ≠ 0 → m.digitChar ≠ '0' := by decide
      exact hdigits n hlt hn
    · rename_i hle
      obtain ⟨c, more, hdigits, hc⟩ := ih (n / 10) (by omega) (by omega)
      exact ⟨c, more ++ [(n % 10).digitChar], by rw [hdigits, List.cons_append], hc⟩

namespace Numeral

theorem afterDigits_digits {ds : List Char} (hds : ∀ c ∈ ds, c.isDigit = true) (hrest : EndsNumber rest) :
    afterDigits Char.isDigit (ds ++ rest) = some rest := by
  induction ds with
  | nil =>
    cases rest with
    | nil => rfl
    | cons c more =>
      have hword := (hrest c rfl).1
      have hdigit : c.isDigit = false := by
        rw [Bool.eq_false_iff]
        intro h
        rw [isWordChar_of_isDigit h] at hword
        cases hword
      have hunderscore : c ≠ '_' := by
        rintro rfl
        cases hword
      rw [List.nil_append, afterDigits, if_neg (by simp [hdigit])]
      · exact fun _ _ h => absurd h hunderscore
      · exact fun h => absurd h hunderscore
  | cons d others ih =>
    have hd : d.isDigit = true := hds d List.mem_cons_self
    have hunderscore : d ≠ '_' := by
      rintro rfl
      cases hd
    rw [List.cons_append, afterDigits, if_pos hd, ih fun c hc => hds c (List.mem_cons_of_mem d hc)]
    · exact fun _ _ h => absurd h hunderscore
    · exact fun h => absurd h hunderscore

/-- A whole number ends before what does not belong to a number. -/
theorem afterWhole_end (digits : Nat) (hrest : EndsNumber rest) : afterWhole digits rest = some (⟨false, digits⟩, rest) := by
  cases rest with
  | nil => rfl
  | cons c more =>
    obtain ⟨hword, -, hpoint⟩ := hrest c rfl
    have hletter : ∀ l ∈ ['e', 'E', 'j', 'J'], c ≠ l := hrest.ne_letter (by decide)
    have hends : canEnd (c :: more) = true := by simp [canEnd, hword]
    rw [afterWhole]
    · simp [exponent, ending, hletter, hends]
    · exact fun _ h => hpoint (List.cons.inj h).1

theorem leadingDigits_digits {ds : List Char} (hds : ∀ c ∈ ds, c.isDigit = true) (hrest : EndsNumber rest) :
    leadingDigits (ds ++ rest) = ds := by
  have htake : rest.takeWhile (fun c => c.isDigit || c == '_') = [] := by
    cases rest with
    | nil => rfl
    | cons c more =>
      have hword := (hrest c rfl).1
      simp only [isWordChar, Char.isAlphanum, Bool.or_eq_false_iff] at hword
      simp [hword.1.1.2, hword.1.2]
  rw [leadingDigits, List.takeWhile_append_of_pos (by simpa using fun c hc => Or.inl (hds c hc)), htake, List.append_nil]
  exact List.filter_eq_self.mpr hds

/-- The digits of a number are read to their end. -/
theorem read_toDigits {n : Nat} (hn : (Nat.toDigits 10 n).length ≤ Decimal.maxDigits) (hrest : EndsNumber rest) :
    ∃ digits, read (Nat.toDigits 10 n ++ rest) = some (⟨false, digits⟩, rest) := by
  have hds : ∀ c ∈ Nat.toDigits 10 n, c.isDigit = true := fun c hc => Nat.isDigit_of_mem_toDigits (by decide) (by decide) hc
  by_cases hzero : n = 0
  · subst hzero
    have hzeros : afterZero rest = some (⟨false, 1⟩, rest) := by
      cases rest with
      | nil => rfl
      | cons c more =>
        have hletter : ∀ l ∈ ['x', 'X', 'o', 'O', 'b', 'B'], c ≠ l := hrest.ne_letter (by decide)
        have hnone : leadingDigits (c :: more) = [] := leadingDigits_digits (List.forall_mem_nil _) hrest
        have hafter : afterDigits Char.isDigit (c :: more) = some (c :: more) := afterDigits_digits (List.forall_mem_nil _) hrest
        simp [afterZero, hletter, hafter, afterWhole_end 1 hrest, hnone]
    refine ⟨1, ?_⟩
    rw [Nat.toDigits_zero, List.singleton_append, read, hzeros]
    rfl
  · obtain ⟨c, more, hdigits, hc⟩ := exists_firstDigit hzero
    refine ⟨(Nat.toDigits 10 n).length, ?_⟩
    have hafter : digitsFirst Char.isDigit (Nat.toDigits 10 n ++ rest) = some rest := by
      rw [hdigits] at hds ⊢
      rw [List.cons_append, digitsFirst, if_pos (hds c List.mem_cons_self)]
      exact afterDigits_digits (fun d hd => hds d (List.mem_cons_of_mem c hd)) hrest
    have hleading := leadingDigits_digits hds hrest
    have hpoint : c ≠ '.' := by
      rintro rfl
      cases hds '.' (by simp [hdigits])
    have hwhole := afterWhole_end (Nat.toDigits 10 n).length hrest
    rw [hdigits, List.cons_append] at hafter hleading ⊢
    rw [hdigits, List.length_cons] at hwhole hn
    rw [read]
    · simp [hafter, hleading, hwhole, Nat.not_lt.mpr hn]
    · exact fun _ h => hc (List.cons.inj h).1
    · exact fun _ h => hpoint (List.cons.inj h).1

end Numeral

/-- The digits of a number are one numeral. -/
theorem plainToken?_toDigits {n : Nat} (hn : (Nat.toDigits 10 n).length ≤ Decimal.maxDigits) (hrest : EndsNumber rest) :
    plainToken? (Nat.toDigits 10 n ++ rest) = some (.number false, rest) := by
  have hds : ∀ c ∈ Nat.toDigits 10 n, c.isDigit = true := fun c hc => Nat.isDigit_of_mem_toDigits (by decide) (by decide) hc
  obtain ⟨digits, hread⟩ := Numeral.read_toDigits hn hrest
  have hnone := stringAt?_eq_none_of_word Nat.toDigits_ne_nil (fun c hc => isWordChar_of_isDigit (hds c hc)) hrest.endsWord
  obtain ⟨c, more, hdigits⟩ := List.exists_cons_of_ne_nil (Nat.toDigits_ne_nil (n := n) (b := 10))
  have hc : c.isDigit = true := hds c (by simp [hdigits])
  rw [hdigits, List.cons_append] at hread hnone ⊢
  simp [plainToken?, hnone, hc, hread]

end TypedOperations.Source
