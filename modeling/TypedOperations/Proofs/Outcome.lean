import Mathlib.Data.List.Forall2

/-!
# Computations that can fail

What a computation did if it came to a result: each of its steps did.
-/

namespace TypedOperations

variable {ε α β : Type}

/-- Two steps succeed exactly when the first does and the second does with its result. -/
theorem bind_eq_ok {x : Except ε α} {f : α → Except ε β} {b : β} : x >>= f = .ok b ↔ ∃ a, x = .ok a ∧ f a = .ok b := by
  cases x with
  | error e =>
    constructor
    · intro h
      cases h
    · rintro ⟨a, ha, -⟩
      cases ha
  | ok a =>
    constructor
    · exact fun h => ⟨a, rfl, h⟩
    · rintro ⟨_, ha, h⟩
      cases ha
      exact h

/-- Two steps fail exactly when the first does, or the second does with its result. -/
theorem bind_eq_error {x : Except ε α} {f : α → Except ε β} {e : ε} :
    x >>= f = .error e ↔ x = .error e ∨ ∃ a, x = .ok a ∧ f a = .error e := by
  cases x with
  | error e' =>
    constructor
    · exact fun h => Or.inl (congrArg Except.error (Except.error.inj h))
    · rintro (h | ⟨a, ha, -⟩)
      · exact congrArg Except.error (Except.error.inj h)
      · cases ha
  | ok a =>
    constructor
    · exact fun h => Or.inr ⟨a, rfl, h⟩
    · rintro (h | ⟨_, ha, h⟩)
      · cases h
      · cases ha
        exact h

/-- A result that is only passed on is the result. -/
theorem pure_eq_ok {a b : α} : (pure a : Except ε α) = .ok b ↔ a = b :=
  Except.ok.injEq a b ▸ Iff.rfl

/-- A step whose result is only changed succeeds exactly when the step does. -/
theorem map_eq_ok {x : Except ε α} {f : α → β} {b : β} : f <$> x = .ok b ↔ ∃ a, x = .ok a ∧ f a = b := by
  rw [← bind_pure_comp, bind_eq_ok]
  exact exists_congr fun a => and_congr_right fun _ => pure_eq_ok

/-- A computation has the result that is taken from it. -/
theorem eq_ok_of_toOption {x : Except ε α} {a : α} (h : x.toOption = some a) : x = .ok a := by
  cases x with
  | error e => cases h
  | ok b => exact congrArg Except.ok (Option.some.inj h)

theorem eq_ok_of_isSome {x : Except ε α} {other : α} (h : x.toOption.isSome = true) : x = .ok (x.toOption.getD other) := by
  obtain ⟨a, ha⟩ := Option.isSome_iff_exists.mp h
  rw [ha, Option.getD_some]
  exact eq_ok_of_toOption ha

/-- Two steps are the same as two others with the same first step, if the second ones agree on its result. -/
theorem bind_congr_ok {x : Except ε α} {f g : α → Except ε β} (h : ∀ a, x = .ok a → f a = g a) : x >>= f = x >>= g := by
  cases x with
  | error e => rfl
  | ok a => exact h a rfl

/-! ## Steps for every item of a list -/

section
variable {f : α → Except ε β} {xs : List α} {ys : List β}

/-- A step for every item succeeds exactly when each does, with the results in the order of the items. -/
theorem mapM_eq_ok : xs.mapM f = .ok ys ↔ List.Forall₂ (fun x y => f x = .ok y) xs ys := by
  induction xs generalizing ys with
  | nil =>
    rw [List.mapM_nil, pure_eq_ok, List.forall₂_nil_left_iff]
    exact eq_comm
  | cons x rest ih =>
    rw [List.mapM_cons, bind_eq_ok, List.forall₂_cons_left_iff]
    constructor
    · rintro ⟨y, hy, h⟩
      obtain ⟨others, hothers, h⟩ := bind_eq_ok.mp h
      exact ⟨y, others, hy, ih.mp hothers, (pure_eq_ok.mp h).symm⟩
    · rintro ⟨y, others, hy, hothers, rfl⟩
      exact ⟨y, hy, bind_eq_ok.mpr ⟨others, ih.mpr hothers, rfl⟩⟩

/-- Every result comes from an item. -/
theorem mem_of_mapM (h : xs.mapM f = .ok ys) {y : β} (hy : y ∈ ys) : ∃ x ∈ xs, f x = .ok y := by
  induction mapM_eq_ok.mp h with
  | nil => cases hy
  | cons hx _ ih =>
    rcases List.mem_cons.mp hy with rfl | hy
    · exact ⟨_, List.mem_cons_self, hx⟩
    · obtain ⟨x, hmem, hxy⟩ := ih (mapM_eq_ok.mpr ‹_›) hy
      exact ⟨x, List.mem_cons_of_mem _ hmem, hxy⟩

/-- What the results have, read off the items that they are made for. -/
theorem map_of_mapM {γ : Type _} {g : β → γ} {k : α → γ} (h : xs.mapM f = .ok ys)
    (hsame : ∀ x y, f x = .ok y → g y = k x) : ys.map g = xs.map k := by
  induction mapM_eq_ok.mp h with
  | nil => rfl
  | cons hx hrest ih => rw [List.map_cons, List.map_cons, hsame _ _ hx, ih (mapM_eq_ok.mpr hrest)]

/-- Every item has a result. -/
theorem exists_of_mapM (h : xs.mapM f = .ok ys) {x : α} (hx : x ∈ xs) : ∃ y ∈ ys, f x = .ok y := by
  induction mapM_eq_ok.mp h with
  | nil => cases hx
  | cons hy _ ih =>
    rcases List.mem_cons.mp hx with rfl | hx
    · exact ⟨_, List.mem_cons_self, hy⟩
    · obtain ⟨y, hmem, hxy⟩ := ih (mapM_eq_ok.mpr ‹_›) hx
      exact ⟨y, List.mem_cons_of_mem _ hmem, hxy⟩

/-- The last item of a kind has the last result of that kind. -/
theorem findLast_of_mapM {p : α → Bool} {q : β → Bool} (hkind : ∀ x y, f x = .ok y → q y = p x) (h : xs.mapM f = .ok ys)
    {x : α} (hx : xs.reverse.find? p = some x) : ∃ y, ys.reverse.find? q = some y ∧ f x = .ok y := by
  have hfind : ∀ {as : List α} {bs : List β}, List.Forall₂ (fun x y => f x = .ok y) as bs → as.find? p = some x →
      ∃ y, bs.find? q = some y ∧ f x = .ok y := by
    intro as bs h
    induction h with
    | nil => exact fun hx => by cases hx
    | @cons first result rest results hfirst _ ih =>
      intro hx
      have hsame := hkind first result hfirst
      by_cases hp : p first = true
      · rw [List.find?_cons_of_pos hp] at hx
        cases hx
        exact ⟨result, List.find?_cons_of_pos (hsame.trans hp), hfirst⟩
      · rw [List.find?_cons_of_neg hp] at hx
        obtain ⟨y, hy, hxy⟩ := ih hx
        exact ⟨y, by rw [List.find?_cons_of_neg (by rwa [hsame]), hy], hxy⟩
  exact hfind (List.rel_reverse (mapM_eq_ok.mp h)) hx

/-- What the step for one item keeps, the steps for all items keep. -/
theorem foldlM_keeps {P : β → Prop} {step : β → α → Except ε β} (hstep : ∀ {b x b'}, P b → step b x = .ok b' → P b') :
    ∀ {b b' : β}, P b → xs.foldlM step b = .ok b' → P b' := by
  induction xs with
  | nil =>
    intro b b' hb h
    cases h
    exact hb
  | cons x rest ih =>
    intro b b' hb h
    rw [List.foldlM_cons] at h
    obtain ⟨next, hx, h⟩ := bind_eq_ok.mp h
    exact ih (hstep hb hx) h

/-- Steps that agree as long as the first ones keep something come to the same result. -/
theorem foldlM_congr {P : β → Prop} {step step' : β → α → Except ε β} (hsame : ∀ {b x}, P b → step b x = step' b x)
    (hstep : ∀ {b x b'}, P b → step b x = .ok b' → P b') :
    ∀ {b : β}, P b → xs.foldlM step b = xs.foldlM step' b := by
  induction xs with
  | nil => exact fun _ => rfl
  | cons x rest ih =>
    intro b hb
    rw [List.foldlM_cons, List.foldlM_cons, ← hsame hb]
    cases hx : step b x with
    | error e => rfl
    | ok next => exact ih (hstep hb hx)

/-- Where the steps for all items fail, the step for one of them does. -/
theorem foldlM_eq_error {step : β → α → Except ε β} {e : ε} :
    ∀ {b : β}, xs.foldlM step b = .error e → ∃ x ∈ xs, ∃ b', step b' x = .error e := by
  induction xs with
  | nil => exact fun h => by cases h
  | cons x rest ih =>
    intro b h
    rw [List.foldlM_cons, bind_eq_error] at h
    rcases h with hx | ⟨next, -, h⟩
    · exact ⟨x, List.mem_cons_self, b, hx⟩
    · obtain ⟨y, hy, hfail⟩ := ih h
      exact ⟨y, List.mem_cons_of_mem x hy, hfail⟩

/-- Where the steps for all items fail, the step for one of them does. -/
theorem mapM_eq_error {e : ε} (h : xs.mapM f = .error e) : ∃ x ∈ xs, f x = .error e := by
  induction xs with
  | nil => cases h
  | cons x rest ih =>
    rw [List.mapM_cons, bind_eq_error] at h
    rcases h with hx | ⟨y, -, h⟩
    · exact ⟨x, List.mem_cons_self, hx⟩
    · rcases bind_eq_error.mp h with hrest | ⟨_, -, h⟩
      · obtain ⟨z, hz, hfail⟩ := ih hrest
        exact ⟨z, List.mem_cons_of_mem x hz, hfail⟩
      · cases h

/-- Steps that agree on every item come to the same results. -/
theorem mapM_congr_mem {g : α → Except ε β} (h : ∀ x ∈ xs, f x = g x) : xs.mapM f = xs.mapM g := by
  induction xs with
  | nil => rfl
  | cons x rest ih =>
    rw [List.mapM_cons, List.mapM_cons, h x List.mem_cons_self, ih fun y hy => h y (List.mem_cons_of_mem x hy)]

/-- Steps that agree on every item, whatever was there before it, come to the same result. -/
theorem foldlM_congr_mem {step step' : β → α → Except ε β} (h : ∀ x ∈ xs, ∀ b, step b x = step' b x) (b : β) :
    xs.foldlM step b = xs.foldlM step' b := by
  induction xs generalizing b with
  | nil => rfl
  | cons x rest ih =>
    rw [List.foldlM_cons, List.foldlM_cons, h x List.mem_cons_self]
    exact bind_congr (ih fun y hy => h y (List.mem_cons_of_mem x hy))

/-- Every result that was kept comes from an item. -/
theorem mem_of_filterMapM {f : α → Except ε (Option β)} (h : xs.filterMapM f = .ok ys) {y : β} (hy : y ∈ ys) :
    ∃ x ∈ xs, f x = .ok (some y) := by
  induction xs generalizing ys with
  | nil =>
    rw [List.filterMapM_nil, pure_eq_ok] at h
    subst h
    cases hy
  | cons x rest ih =>
    rw [List.filterMapM_cons, bind_eq_ok] at h
    obtain ⟨r, hr, h⟩ := h
    cases r with
    | none =>
      obtain ⟨z, hz, hzy⟩ := ih h hy
      exact ⟨z, List.mem_cons_of_mem _ hz, hzy⟩
    | some b =>
      obtain ⟨others, hothers, h⟩ := bind_eq_ok.mp h
      cases pure_eq_ok.mp h
      rcases List.mem_cons.mp hy with rfl | hy
      · exact ⟨x, List.mem_cons_self, hr⟩
      · obtain ⟨z, hz, hzy⟩ := ih hothers hy
        exact ⟨z, List.mem_cons_of_mem _ hz, hzy⟩

end

/-! ## Which faults there can be -/

/-- Where the computation fails, its fault is one that `P` allows. -/
def FailsOnly (P : ε → Prop) (x : Except ε α) : Prop :=
  ∀ e, x = .error e → P e

section
variable {P : ε → Prop} {x : Except ε α}

theorem failsOnly_ok (a : α) : FailsOnly P (.ok a : Except ε α) :=
  fun _ h => by cases h

/-- A computation without faults has a result. -/
theorem failsOnly_false_iff : FailsOnly (fun _ => False) x ↔ ∃ a, x = .ok a := by
  cases x with
  | error e => exact ⟨fun h => (h e rfl).elim, fun ⟨_, h⟩ => by cases h⟩
  | ok a => exact ⟨fun _ => ⟨a, rfl⟩, fun _ => failsOnly_ok a⟩

theorem FailsOnly.mono {Q : ε → Prop} (h : FailsOnly P x) (hweaker : ∀ e, P e → Q e) : FailsOnly Q x :=
  fun e he => hweaker e (h e he)

/-- Two steps have the faults of the first, and those of the second with a result of the first. -/
theorem FailsOnly.bind {f : α → Except ε β} (hx : FailsOnly P x) (hf : ∀ a, x = .ok a → FailsOnly P (f a)) :
    FailsOnly P (x >>= f) := by
  intro e h
  rcases bind_eq_error.mp h with hfail | ⟨a, ha, hfail⟩
  · exact hx e hfail
  · exact hf a ha e hfail

theorem FailsOnly.map {f : α → β} (hx : FailsOnly P x) : FailsOnly P (f <$> x) := by
  rw [← bind_pure_comp]
  exact hx.bind fun a _ => failsOnly_ok (f a)

/-- The steps for all items have the faults of each. -/
theorem FailsOnly.mapM {f : α → Except ε β} {xs : List α} (h : ∀ x ∈ xs, FailsOnly P (f x)) : FailsOnly P (xs.mapM f) := by
  intro e he
  obtain ⟨x, hx, hfail⟩ := mapM_eq_error he
  exact h x hx e hfail

theorem FailsOnly.filterMapM {f : α → Except ε (Option β)} {xs : List α} (h : ∀ x ∈ xs, FailsOnly P (f x)) :
    FailsOnly P (xs.filterMapM f) := by
  induction xs with
  | nil => exact failsOnly_ok []
  | cons x rest ih =>
    have hrest := ih fun y hy => h y (List.mem_cons_of_mem x hy)
    rw [List.filterMapM_cons]
    refine (h x List.mem_cons_self).bind fun kept _ => ?_
    cases kept with
    | none => exact hrest
    | some b => exact hrest.bind fun others _ => failsOnly_ok (b :: others)

end

end TypedOperations
