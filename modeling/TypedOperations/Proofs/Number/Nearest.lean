import Mathlib.Algebra.Order.Field.Power
import Mathlib.Algebra.Order.Ring.Rat
import Mathlib.Tactic.FieldSimp
import Mathlib.Tactic.Linarith
import Mathlib.Tactic.NormNum
import Mathlib.Tactic.Positivity
import Mathlib.Tactic.Ring
import TypedOperations.Number.Binary64

/-!
# Nearest numbers of double precision

What it means that a number of double precision is nearest to a rational one: no other is nearer, and of two at the same
distance the one with the even mantissa is taken; halfway beyond the greatest one infinity is. Decimals are read to the nearest
number (`ofDecimal_nearest`), and there is only one (`Nearest.unique`). The argument is about integers: where the last bit of
the mantissa is worth a power of two (`StepAt`), the rounded multiple of it is nearest among all numbers, also among those with
a finer last bit, because the least full mantissa lies in between.
-/

namespace TypedOperations.Binary64

/-- Mantissa and exponent of a number of double precision. The mantissa has 53 bits, or fewer at the least exponent. -/
structure IsDouble (m : Nat) (q : Int) : Prop where
  small : m < 2 ^ 53
  full : 2 ^ 52 ≤ m ∨ q = -1074
  least : -1074 ≤ q
  greatest : q ≤ 971

/-- What a mantissa is worth with an exponent. -/
def magnitude (m : Nat) (q : Int) : ℚ := m * 2 ^ q

/-- The integer is nearest to the number, and even if another one is as near. -/
def Rounds (x : ℚ) (n : Nat) : Prop :=
  |x - n| ≤ 1 / 2 ∧ (|x - n| = 1 / 2 → n % 2 = 0)

theorem rounds_roundDiv (num : Nat) {den : Nat} (hden : 0 < den) : Rounds ((num : ℚ) / den) (roundDiv num den) := by
  have hpos : (0 : ℚ) < den := by exact_mod_cast hden
  have hnum : (num : ℚ) / den = (num / den : Nat) + (num % den : Nat) / den := by
    have h : ((den * (num / den) + num % den : Nat) : ℚ) = num := by rw [Nat.div_add_mod]
    rw [← h]
    push_cast
    field_simp
  have hrest : (0 : ℚ) ≤ (num % den : Nat) / den := by positivity
  rw [hnum, Rounds, roundDiv]
  by_cases hlow : 2 * (num % den) < den
  · have h : (num % den : Nat) / (den : ℚ) < 1 / 2 := by
      rw [div_lt_div_iff₀ hpos two_pos]
      exact_mod_cast (by omega : num % den * 2 < 1 * den)
    simp only [if_pos hlow, add_sub_cancel_left, abs_of_nonneg hrest]
    exact ⟨h.le, fun heq => absurd heq h.ne⟩
  · by_cases hhigh : den < 2 * (num % den)
    · have h : 1 / 2 < (num % den : Nat) / (den : ℚ) := by
        rw [div_lt_div_iff₀ two_pos hpos]
        exact_mod_cast (by omega : 1 * den < num % den * 2)
      have hone : (num % den : Nat) / (den : ℚ) < 1 := by
        rw [div_lt_one hpos]
        exact_mod_cast Nat.mod_lt num hden
      have habs : |((num / den : Nat) : ℚ) + (num % den : Nat) / den - ((num / den + 1 : Nat) : ℚ)| < 1 / 2 := by
        rw [abs_lt]
        push_cast at *
        constructor <;> linarith
      simp only [if_neg hlow, if_pos hhigh]
      exact ⟨habs.le, fun heq => absurd heq habs.ne⟩
    · have hhalf : (num % den : Nat) / (den : ℚ) = 1 / 2 := by
        rw [div_eq_div_iff hpos.ne' two_ne_zero]
        exact_mod_cast (by omega : num % den * 2 = 1 * den)
      simp only [if_neg hlow, if_neg hhigh, hhalf]
      by_cases heven : num / den % 2 = 0
      · simp [heven]
      · simp only [beq_iff_eq, if_neg heven]
        refine ⟨le_of_eq ?_, fun _ => by omega⟩
        push_cast
        norm_num [abs_div]

/-! ## Powers -/

/-- The two parts of a scaled number are a fraction of its value. -/
theorem scale_eq (n : Nat) {base : Nat} (hbase : 0 < base) (e : Int) :
    0 < (scale n base e).2 ∧ ((scale n base e).1 : ℚ) / (scale n base e).2 = n * (base : ℚ) ^ e := by
  have hb : (base : ℚ) ≠ 0 := by exact_mod_cast hbase.ne'
  rw [scale]
  by_cases he : 0 ≤ e
  · obtain ⟨k, rfl⟩ := Int.eq_ofNat_of_zero_le he
    simp [he]
  · obtain ⟨k, hk⟩ := Int.eq_ofNat_of_zero_le (by omega : 0 ≤ -e)
    obtain rfl : e = -(k : Int) := by omega
    rw [if_neg he]
    refine ⟨Nat.pow_pos hbase, ?_⟩
    simp [div_eq_mul_inv]

/-- The power of two that a number starts with. -/
theorem floorLog2_spec {num den : Nat} (hnum : 0 < num) (hden : 0 < den) :
    (2 : ℚ) ^ floorLog2 num den ≤ num / den ∧ (num : ℚ) / den < 2 ^ (floorLog2 num den + 1) := by
  have hd : (0 : ℚ) < den := by exact_mod_cast hden
  have hn₁ : (2 : ℚ) ^ (num.log2 : Int) ≤ num := by exact_mod_cast Nat.log2_self_le hnum.ne'
  have hn₂ : (num : ℚ) < 2 ^ ((num.log2 : Int) + 1) := by exact_mod_cast Nat.lt_log2_self
  have hd₁ : (2 : ℚ) ^ (den.log2 : Int) ≤ den := by exact_mod_cast Nat.log2_self_le hden.ne'
  have hd₂ : (den : ℚ) < 2 ^ ((den.log2 : Int) + 1) := by exact_mod_cast Nat.lt_log2_self
  -- the quotient lies within a factor of two of the guess
  have hbelow : (2 : ℚ) ^ ((num.log2 : Int) - den.log2 - 1) ≤ num / den := by
    rw [le_div_iff₀ hd]
    calc (2 : ℚ) ^ ((num.log2 : Int) - den.log2 - 1) * den
        ≤ 2 ^ ((num.log2 : Int) - den.log2 - 1) * 2 ^ ((den.log2 : Int) + 1) := by gcongr
      _ = 2 ^ (num.log2 : Int) := by rw [← zpow_add₀ two_ne_zero]; congr 1; ring
      _ ≤ num := hn₁
  have habove : (num : ℚ) / den < 2 ^ ((num.log2 : Int) - den.log2 + 1) := by
    rw [div_lt_iff₀ hd]
    calc (num : ℚ) < 2 ^ ((num.log2 : Int) + 1) := hn₂
      _ = 2 ^ ((num.log2 : Int) - den.log2 + 1) * 2 ^ (den.log2 : Int) := by rw [← zpow_add₀ two_ne_zero]; congr 1; ring
      _ ≤ 2 ^ ((num.log2 : Int) - den.log2 + 1) * den := by gcongr
  simp only [floorLog2]
  generalize (num.log2 : Int) - den.log2 = guess at *
  obtain ⟨hpos, hscale⟩ := scale_eq den two_pos guess
  have hq : (0 : ℚ) < (scale den 2 guess).2 := by exact_mod_cast hpos
  have hiff : (scale den 2 guess).1 ≤ num * (scale den 2 guess).2 ↔ (2 : ℚ) ^ guess ≤ num / den := by
    have hcast : (scale den 2 guess).1 ≤ num * (scale den 2 guess).2 ↔
        ((scale den 2 guess).1 : ℚ) ≤ num * (scale den 2 guess).2 := by exact_mod_cast Iff.rfl
    rw [hcast, ← div_le_iff₀ hq, hscale, le_div_iff₀ hd, mul_comm, Nat.cast_ofNat]
  split
  · exact ⟨hiff.mp ‹_›, habove⟩
  · rw [sub_add_cancel]
    exact ⟨hbelow, not_le.mp (mt hiff.mpr ‹_›)⟩

/-! ## Nearest numbers -/

/-- Halfway between the greatest number and the power of two after it. -/
def overflow : ℚ := (2 ^ 53 - 1 / 2) * 2 ^ (971 : Int)

/-- The number of double precision with this sign that a magnitude is rounded to: the nearest one, with an even mantissa if
another one is as near, and infinity from halfway beyond the greatest one on. -/
inductive Nearest (negative : Bool) (r : ℚ) : Binary64 → Prop where
  | finite {m : Nat} {q : Int} : IsDouble m q → r < overflow →
      (∀ m' q', IsDouble m' q' → |r - magnitude m q| ≤ |r - magnitude m' q'|) →
      (∀ m' q', IsDouble m' q' → magnitude m' q' ≠ magnitude m q → |r - magnitude m' q'| = |r - magnitude m q| →
        m % 2 = 0) →
      Nearest negative r (.finite negative m q)
  | infinite : overflow ≤ r → Nearest negative r (.infinite negative)

/-- No integer is nearer than the rounded one, and it is even if another one is as near. -/
theorem Rounds.nearest {x : ℚ} {n : Nat} (h : Rounds x n) (k : Nat) :
    |x - n| ≤ |x - k| ∧ (k ≠ n → |x - k| = |x - n| → n % 2 = 0) := by
  by_cases hk : k = n
  · subst hk
    exact ⟨le_rfl, fun hne => absurd rfl hne⟩
  · have hone : (1 : ℚ) ≤ |(k : ℚ) - n| := by
      have : (1 : Int) ≤ |(k : Int) - n| := Int.one_le_abs (by omega)
      exact_mod_cast this
    have htriangle : |(k : ℚ) - n| ≤ |x - k| + |x - n| := by
      rw [abs_sub_comm x k]
      simpa using abs_sub_le (k : ℚ) x n
    have hnear := h.1
    refine ⟨by linarith, fun _ heq => h.2 ?_⟩
    linarith

/-- The exponent of the numbers next to a magnitude. -/
structure StepAt (r : ℚ) (q : Int) : Prop where
  least : -1074 ≤ q
  above : r < 2 ^ 53 * 2 ^ q
  below : 2 ^ 52 * 2 ^ q ≤ r ∨ q = -1074

/-- A number is a multiple of every power of two up to its own. -/
theorem magnitude_eq_mul (m : Nat) {q p : Int} (hp : p ≤ q) : ∃ k : Nat, magnitude m q = k * 2 ^ p := by
  obtain ⟨j, hj⟩ := Int.eq_ofNat_of_zero_le (by omega : 0 ≤ q - p)
  obtain rfl : q = j + p := by omega
  refine ⟨m * 2 ^ j, ?_⟩
  rw [magnitude, zpow_add₀ two_ne_zero, zpow_natCast]
  push_cast
  ring

/-- A number is smaller than the full mantissas of a higher exponent. -/
theorem IsDouble.lt_full {m : Nat} {q p : Int} (h : IsDouble m q) (hp : q < p) : magnitude m q < 2 ^ 52 * 2 ^ p := by
  have hm : (m : ℚ) < 2 ^ 53 := by exact_mod_cast h.small
  calc magnitude m q = m * 2 ^ q := rfl
    _ < 2 ^ 53 * 2 ^ q := by gcongr
    _ = 2 ^ 52 * 2 ^ (q + 1) := by rw [zpow_add_one₀ two_ne_zero]; ring
    _ ≤ 2 ^ 52 * 2 ^ p := by gcongr <;> norm_num; omega

section
variable {r : ℚ} {p : Int} {n : Nat}

/-- Distances to multiples of a power of two are distances to integers. -/
theorem abs_sub_mul_zpow (r : ℚ) (k : Nat) (p : Int) : |r - k * 2 ^ p| = |r / 2 ^ p - k| * 2 ^ p := by
  have hp : (0 : ℚ) < 2 ^ p := by positivity
  rw [← abs_of_pos hp, ← abs_mul, abs_of_pos hp, sub_mul, div_mul_cancel₀ _ hp.ne']

/-- Where the last bit is worth a power of two, the rounded multiple of it is nearest. -/
theorem StepAt.nearest (hs : StepAt r p) (hn : Rounds (r / 2 ^ p) n) {m : Nat} {q : Int} (h : IsDouble m q) :
    |r - n * 2 ^ p| ≤ |r - magnitude m q| ∧
      (magnitude m q ≠ n * 2 ^ p → |r - magnitude m q| = |r - n * 2 ^ p| → n % 2 = 0) := by
  have hp : (0 : ℚ) < 2 ^ p := by positivity
  by_cases hq : p ≤ q
  · obtain ⟨k, hk⟩ := magnitude_eq_mul m hq
    obtain ⟨hnear, htie⟩ := hn.nearest k
    rw [hk, abs_sub_mul_zpow, abs_sub_mul_zpow]
    refine ⟨by gcongr, fun hne heq => htie ?_ (mul_right_cancel₀ hp.ne' heq)⟩
    rintro rfl
    exact hne rfl
  · -- the least full mantissa with this last bit lies in between
    have hlt := h.lt_full (not_le.mp hq)
    have hfull : 2 ^ 52 * 2 ^ p ≤ r := hs.below.resolve_right (by have := h.least; omega)
    have hnear : |r - n * 2 ^ p| ≤ |r - (2 ^ 52 : Nat) * 2 ^ p| := by
      rw [abs_sub_mul_zpow, abs_sub_mul_zpow]
      have := (hn.nearest (2 ^ 52)).1
      gcongr
    rw [Nat.cast_pow, Nat.cast_ofNat, abs_of_nonneg (sub_nonneg.mpr hfull)] at hnear
    have hfar : |r - magnitude m q| = r - magnitude m q := abs_of_nonneg (by linarith)
    rw [hfar]
    exact ⟨by linarith, fun _ heq => by linarith⟩

/-- A rounded mantissa has 53 bits, or is the power of two after them. -/
theorem StepAt.mantissa (hs : StepAt r p) (hn : Rounds (r / 2 ^ p) n) : n ≤ 2 ^ 53 ∧ (2 ^ 52 ≤ n ∨ p = -1074) := by
  have hp : (0 : ℚ) < 2 ^ p := by positivity
  obtain ⟨hlow, hhigh⟩ := abs_le.mp hn.1
  constructor
  · have hx : r / 2 ^ p < 2 ^ 53 := (div_lt_iff₀ hp).mpr hs.above
    have : (n : ℚ) < 2 ^ 53 + 1 := by linarith
    exact Nat.lt_succ_iff.mp (by exact_mod_cast this)
  · refine hs.below.imp_left fun hfull => ?_
    have hx : 2 ^ 52 ≤ r / 2 ^ p := (le_div_iff₀ hp).mpr hfull
    have : (2 : ℚ) ^ 52 < n + 1 := by linarith
    exact Nat.lt_succ_iff.mp (by exact_mod_cast this)

/-- A magnitude is beyond the numbers if its exponent is, or if it is rounded up from the greatest one. -/
theorem StepAt.overflow_le_iff (hs : StepAt r p) (hn : Rounds (r / 2 ^ p) n) :
    overflow ≤ r ↔ 971 < p ∨ p = 971 ∧ n = 2 ^ 53 := by
  have hstep : (0 : ℚ) < 2 ^ (971 : Int) := by positivity
  rw [overflow, ← le_div_iff₀ hstep]
  rcases lt_trichotomy p 971 with hp | rfl | hp
  · have hpow : (2 : ℚ) ^ (p + 1) ≤ 2 ^ (971 : Int) := zpow_le_zpow_right₀ one_le_two (by omega)
    rw [zpow_add_one₀ two_ne_zero] at hpow
    have hsmall : r / 2 ^ (971 : Int) < 2 ^ 52 := by
      rw [div_lt_iff₀ hstep]
      have := hs.above
      linarith
    exact ⟨fun h => absurd h (by linarith), fun h => by omega⟩
  · obtain ⟨hlow, hhigh⟩ := abs_le.mp hn.1
    have hmax := (hs.mantissa hn).1
    constructor
    · intro h
      refine Or.inr ⟨rfl, ?_⟩
      by_contra hne
      -- only the greatest number is as near as the power of two, and its mantissa is odd
      have hle : (n : ℚ) + 1 ≤ 2 ^ 53 := by exact_mod_cast (by omega : n + 1 ≤ 2 ^ 53)
      have heq : (n : ℚ) + 1 = 2 ^ 53 := by linarith
      have hodd : n + 1 = 2 ^ 53 := by exact_mod_cast heq
      have htie := hn.2 (by rw [abs_of_nonneg (by linarith)]; linarith)
      omega
    · rintro (h | ⟨-, rfl⟩)
      · omega
      · rw [Nat.cast_pow, Nat.cast_ofNat] at hlow
        linarith
  · have hpow : (2 : ℚ) ^ ((971 : Int) + 1) ≤ 2 ^ p := zpow_le_zpow_right₀ one_le_two (by omega)
    rw [zpow_add_one₀ two_ne_zero] at hpow
    have hlarge : (2 : ℚ) ^ 53 ≤ r / 2 ^ (971 : Int) := by
      rw [le_div_iff₀ hstep]
      have := hs.below.resolve_right (by omega)
      linarith
    exact ⟨fun _ => Or.inl hp, fun _ => by linarith⟩

/-- A number that is worth the rounded multiple is the nearest one, below the bound of overflow. -/
theorem StepAt.finite (hs : StepAt r p) (hn : Rounds (r / 2 ^ p) n) (negative : Bool) {m : Nat} {q : Int} (h : IsDouble m q)
    (hvalue : magnitude m q = n * 2 ^ p) (heven : n % 2 = 0 → m % 2 = 0) (hlt : r < overflow) :
    Nearest negative r (.finite negative m q) := by
  refine .finite h hlt (fun m' q' h' => ?_) (fun m' q' h' hne heq => ?_)
  · rw [hvalue]
    exact (hs.nearest hn h').1
  · rw [hvalue] at hne heq
    exact heven ((hs.nearest hn h').2 hne heq)

end

/-- Magnitudes up to half the least number are read as zero. -/
theorem zero_nearest (negative : Bool) {r : ℚ} (hr : 0 ≤ r) (hsmall : r ≤ 1 / 2 * 2 ^ (-1074 : Int)) :
    Nearest negative r (zero negative) := by
  have hstep : (0 : ℚ) < 2 ^ (-1074 : Int) := by positivity
  have hs : StepAt r (-1074) := by
    refine ⟨le_rfl, hsmall.trans_lt ?_, Or.inr rfl⟩
    gcongr
    norm_num
  have hhalf : r / 2 ^ (-1074 : Int) ≤ 1 / 2 := (div_le_iff₀ hstep).mpr hsmall
  have hn : Rounds (r / 2 ^ (-1074 : Int)) 0 := by
    refine ⟨?_, fun _ => rfl⟩
    rw [Nat.cast_zero, sub_zero, abs_of_nonneg (by positivity)]
    exact hhalf
  have hlt : r < overflow := by
    rw [← not_le, hs.overflow_le_iff hn]
    omega
  exact hs.finite hn negative ⟨by norm_num, Or.inr rfl, le_rfl, by norm_num⟩ (by simp [magnitude]) (fun _ => rfl) hlt

/-- The exponent that a quotient is rounded at. -/
theorem stepAt_floorLog2 {num den : Nat} (hnum : 0 < num) (hden : 0 < den) :
    StepAt ((num : ℚ) / den) (max (floorLog2 num den - 52) (-1074)) := by
  obtain ⟨hlow, hhigh⟩ := floorLog2_spec hnum hden
  refine ⟨le_max_right _ _, ?_, ?_⟩
  · rw [← zpow_ofNat, ← zpow_add₀ two_ne_zero]
    exact hhigh.trans_le (zpow_le_zpow_right₀ one_le_two (by omega))
  · rw [← zpow_ofNat, ← zpow_add₀ two_ne_zero]
    by_cases hleast : max (floorLog2 num den - 52) (-1074) = -1074
    · exact Or.inr hleast
    · exact Or.inl ((zpow_le_zpow_right₀ one_le_two (by omega)).trans hlow)

/-- At an exponent, a quotient is rounded by rounding one of integers. -/
theorem rounds_scale (num : Nat) {den : Nat} (hden : 0 < den) (p : Int) :
    Rounds ((num : ℚ) / den / 2 ^ p) (roundDiv (num * (scale den 2 p).2) (scale den 2 p).1) := by
  obtain ⟨hpos, hscale⟩ := scale_eq den two_pos p
  have hd : (0 : ℚ) < den := by exact_mod_cast hden
  have hsecond : (0 : ℚ) < (scale den 2 p).2 := by exact_mod_cast hpos
  rw [div_eq_iff hsecond.ne', Nat.cast_ofNat] at hscale
  have hfirst : (0 : ℚ) < (scale den 2 p).1 := by
    rw [hscale]
    positivity
  have hquotient : (num : ℚ) / den / 2 ^ p = (num * (scale den 2 p).2 : Nat) / ((scale den 2 p).1 : ℚ) := by
    rw [hscale, Nat.cast_mul]
    field_simp
  rw [hquotient]
  exact rounds_roundDiv _ (by exact_mod_cast hfirst)

/-- A quotient is read to the nearest number. -/
theorem ofRatio_nearest (negative : Bool) (num : Nat) {den : Nat} (hden : 0 < den) :
    Nearest negative ((num : ℚ) / den) (ofRatio negative num den) := by
  by_cases hnum : num = 0
  · subst hnum
    simpa [ofRatio] using zero_nearest negative le_rfl (by positivity)
  · have hs := stepAt_floorLog2 (Nat.pos_of_ne_zero hnum) hden
    have hn := rounds_scale num hden (max (floorLog2 num den - 52) (-1074))
    rw [ofRatio, if_neg (by simpa using hnum)]
    generalize max (floorLog2 num den - 52) (-1074) = p at *
    simp only
    generalize roundDiv (num * (scale den 2 p).2) (scale den 2 p).1 = n at *
    obtain ⟨hmax, hfull⟩ := hs.mantissa hn
    have hover := hs.overflow_le_iff hn
    have hleast := hs.least
    have hif : (n == 2 * leastFull) = true ↔ n = 2 ^ 53 := beq_iff_eq
    by_cases hcarry : n = 2 ^ 53
    · -- the carry leaves a power of two, one exponent higher
      have hvalue : magnitude leastFull (p + 1) = n * 2 ^ p := by
        rw [magnitude, hcarry, zpow_add_one₀ two_ne_zero, leastFull]
        push_cast
        ring
      rw [if_pos (hif.mpr hcarry)]
      by_cases hlarge : 971 < p + 1
      · rw [if_pos hlarge]
        exact .infinite (hover.mpr (by omega))
      · have hdouble : IsDouble leastFull (p + 1) := ⟨by decide, Or.inl le_rfl, by omega, by omega⟩
        have heven : leastFull % 2 = 0 := by decide
        rw [if_neg hlarge]
        exact hs.finite hn negative hdouble hvalue (fun _ => heven) (not_le.mp (mt hover.mp (by omega)))
    · rw [if_neg (mt hif.mp hcarry)]
      by_cases hlarge : 971 < p
      · rw [if_pos hlarge]
        exact .infinite (hover.mpr (by omega))
      · rw [if_neg hlarge]
        exact hs.finite hn negative ⟨by omega, hfull, hleast, by omega⟩ rfl id (not_le.mp (mt hover.mp (by omega)))

/-! ## Decimals -/

/-- A number lies between the powers of ten of its digits. -/
theorem toDigits_bounds (n : Nat) :
    n < 10 ^ (Nat.toDigits 10 n).length ∧ (n ≠ 0 → 10 ^ (Nat.toDigits 10 n).length ≤ 10 * n) := by
  induction n using Nat.strongRecOn with
  | _ n ih =>
    rw [Nat.toDigits_eq_if (by decide)]
    by_cases hn : n < 10
    · rw [if_pos hn]
      exact ⟨by simpa using hn, fun h0 => by simp; omega⟩
    · obtain ⟨hlt, hle⟩ := ih (n / 10) (by omega)
      have hle := hle (by omega)
      rw [if_neg hn, List.length_append, List.length_singleton, pow_succ]
      exact ⟨by omega, fun _ => by omega⟩

theorem overflow_le_pow : overflow ≤ 10 ^ (400 : Int) := by
  calc overflow ≤ 2 ^ (53 : Int) * 2 ^ (971 : Int) := by
        rw [overflow]
        gcongr
        norm_num
    _ = 2 ^ (1024 : Int) := (zpow_add₀ two_ne_zero _ _).symm
    _ ≤ 2 ^ (3 * 400 : Int) := zpow_le_zpow_right₀ one_le_two (by norm_num)
    _ = 8 ^ (400 : Int) := by rw [zpow_mul]; norm_num
    _ ≤ 10 ^ (400 : Int) := zpow_le_zpow_left₀ (by norm_num) (by norm_num) (by norm_num)

theorem pow_le_half_least : (10 : ℚ) ^ (-401 : Int) ≤ 1 / 2 * 2 ^ (-1074 : Int) := by
  calc (10 : ℚ) ^ (-401 : Int) = (10 ^ (401 : Int))⁻¹ := zpow_neg _ _
    _ ≤ (8 ^ (401 : Int))⁻¹ := inv_anti₀ (by positivity) (zpow_le_zpow_left₀ (by norm_num) (by norm_num) (by norm_num))
    _ = 2 ^ (3 * -401 : Int) := by rw [zpow_mul, ← zpow_neg]; norm_num
    _ ≤ 2 ^ (-1 + -1074 : Int) := zpow_le_zpow_right₀ one_le_two (by norm_num)
    _ = 1 / 2 * 2 ^ (-1074 : Int) := by rw [zpow_add₀ two_ne_zero]; norm_num

/-- A decimal is read to the nearest number. -/
theorem ofDecimal_nearest (negative : Bool) (n : Nat) (e : Int) :
    Nearest negative ((n : ℚ) * 10 ^ e) (ofDecimal negative n e) := by
  rw [ofDecimal]
  by_cases hn : n = 0
  · subst hn
    simpa using zero_nearest negative le_rfl (by positivity)
  · obtain ⟨hlt, hle⟩ := toDigits_bounds n
    have hlt : (n : ℚ) < 10 ^ ((Nat.toDigits 10 n).length : Int) := by exact_mod_cast hlt
    have hle : (10 : ℚ) ^ ((Nat.toDigits 10 n).length : Int) ≤ 10 * n := by exact_mod_cast hle hn
    generalize ((Nat.toDigits 10 n).length : Int) = length at *
    have he : (0 : ℚ) < 10 ^ e := by positivity
    simp only [beq_iff_eq, if_neg hn]
    by_cases hlarge : 400 < length + e
    · rw [if_pos hlarge]
      have hpow : (10 : ℚ) ^ (400 + 1 : Int) ≤ 10 * n * 10 ^ e := by
        calc (10 : ℚ) ^ (400 + 1 : Int) ≤ 10 ^ (length + e) := zpow_le_zpow_right₀ (by norm_num) (by omega)
          _ = 10 ^ length * 10 ^ e := zpow_add₀ (by norm_num) _ _
          _ ≤ 10 * n * 10 ^ e := by gcongr
      rw [zpow_add_one₀ (by norm_num)] at hpow
      have hover := overflow_le_pow
      exact .infinite (by linarith)
    · rw [if_neg hlarge]
      by_cases hsmall : length + e < -400
      · rw [if_pos hsmall]
        refine zero_nearest negative (by positivity) ?_
        calc (n : ℚ) * 10 ^ e ≤ 10 ^ length * 10 ^ e := by gcongr
          _ = 10 ^ (length + e) := (zpow_add₀ (by norm_num) _ _).symm
          _ ≤ 10 ^ (-401 : Int) := zpow_le_zpow_right₀ (by norm_num) (by omega)
          _ ≤ 1 / 2 * 2 ^ (-1074 : Int) := pow_le_half_least
      · rw [if_neg hsmall]
        obtain ⟨hpos, hscale⟩ := scale_eq n (by norm_num : 0 < 10) e
        rw [Nat.cast_ofNat] at hscale
        rw [← hscale]
        exact ofRatio_nearest negative _ hpos

/-! ## Only one -/

section
variable {m m' : Nat} {q q' : Int}

/-- Of two numbers, that with the higher exponent is greater. -/
theorem IsDouble.lt_of_exponent_lt (h : IsDouble m q) (h' : IsDouble m' q') (hlt : q < q') :
    magnitude m q < magnitude m' q' := by
  have hfull : (2 : ℚ) ^ 52 ≤ m' := by exact_mod_cast h'.full.resolve_right (by have := h.least; omega)
  calc magnitude m q < 2 ^ 52 * 2 ^ q' := h.lt_full hlt
    _ ≤ m' * 2 ^ q' := by gcongr

/-- Numbers that are worth the same have the same mantissa and exponent. -/
theorem IsDouble.inj (h : IsDouble m q) (h' : IsDouble m' q') (heq : magnitude m q = magnitude m' q') : m = m' ∧ q = q' := by
  rcases lt_trichotomy q q' with hlt | rfl | hlt
  · exact absurd heq (h.lt_of_exponent_lt h' hlt).ne
  · have hq : (2 : ℚ) ^ q ≠ 0 := by positivity
    exact ⟨by exact_mod_cast mul_right_cancel₀ hq heq, rfl⟩
  · exact absurd heq (h'.lt_of_exponent_lt h hlt).ne'

/-- Nothing lies between a number and the next mantissa. -/
theorem IsDouble.succ_le (h : IsDouble m q) (h' : IsDouble m' q') (hlt : magnitude m q < magnitude m' q') :
    magnitude (m + 1) q ≤ magnitude m' q' := by
  have hq : (0 : ℚ) < 2 ^ q := by positivity
  have hexp : q ≤ q' := not_lt.mp fun hexp => absurd (h'.lt_of_exponent_lt h hexp) hlt.not_gt
  obtain ⟨k, hk⟩ := magnitude_eq_mul m' hexp
  rw [hk, magnitude] at hlt
  have hmk : (m : ℚ) < k := lt_of_mul_lt_mul_right hlt hq.le
  have hle : m + 1 ≤ k := by exact_mod_cast hmk
  rw [hk, magnitude]
  gcongr

/-- Of two numbers at the same distance, one of which comes right after the other, only one is even. -/
theorem IsDouble.not_lt_of_tie {r : ℚ} (h : IsDouble m q) (h' : IsDouble m' q')
    (hnear : ∀ m' q', IsDouble m' q' → |r - magnitude m q| ≤ |r - magnitude m' q'|)
    (heq : |r - magnitude m' q'| = |r - magnitude m q|) (heven : m % 2 = 0) (heven' : m' % 2 = 0) :
    ¬magnitude m q < magnitude m' q' := by
  intro hlt
  have hnext : IsDouble (m + 1) q :=
    ⟨by have := h.small; omega, h.full.imp_left (by omega), h.least, h.greatest⟩
  have hgt : magnitude m q < magnitude (m + 1) q := by
    rw [magnitude, magnitude]
    gcongr
    omega
  have hmiddle : r - magnitude m' q' = -(r - magnitude m q) := (abs_eq_abs.mp heq).resolve_left (by linarith)
  rcases (h.succ_le h' hlt).lt_or_eq with hbetween | hlast
  · -- the next mantissa is nearer than both
    have hnearer : |r - magnitude (m + 1) q| < |r - magnitude m q| := by
      rw [abs_of_nonneg (by linarith : 0 ≤ r - magnitude m q), abs_lt]
      constructor <;> linarith
    exact absurd (hnear _ _ hnext) (not_le.mpr hnearer)
  · obtain ⟨rfl, rfl⟩ := hnext.inj h' hlast
    omega

end

/-- Only one number is nearest. -/
theorem Nearest.unique {negative : Bool} {r : ℚ} {x y : Binary64} (hx : Nearest negative r x) (hy : Nearest negative r y) :
    x = y := by
  cases hx with
  | infinite hover =>
    cases hy with
    | infinite => rfl
    | finite _ hlt => exact absurd hlt (not_lt.mpr hover)
  | @finite m q h hlt hnear htie =>
    cases hy with
    | infinite hover => exact absurd hlt (not_lt.mpr hover)
    | @finite m' q' h' _ hnear' htie' =>
      have heq : |r - magnitude m' q'| = |r - magnitude m q| := le_antisymm (hnear' m q h) (hnear m' q' h')
      have hsame : magnitude m q = magnitude m' q' := by
        by_contra hne
        have heven := htie m' q' h' (Ne.symm hne) heq
        have heven' := htie' m q h hne heq.symm
        rcases lt_or_gt_of_ne hne with hlt | hlt
        · exact IsDouble.not_lt_of_tie h h' hnear heq heven heven' hlt
        · exact IsDouble.not_lt_of_tie h' h hnear' heq.symm heven' heven hlt
      obtain ⟨rfl, rfl⟩ := h.inj h' hsame
      rfl

end TypedOperations.Binary64
