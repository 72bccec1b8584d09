import TypedOperations.Proofs.Selection.Cases
import TypedOperations.Proofs.Selection.Resolving

/-!
# Fragments of a context

The fragments of a resolved document are filed under their own names. Whatever comes to a result has found the fragments that it
needed: a set with a record case spreads declared fragments only (`Context.declares_of_casesOf`), and the fragments that a set
reaches are declared (`Context.fragmentsReached_declared`), which follows from what one followed spread keeps.
-/

namespace TypedOperations

/-! ## Fragments of a document -/

/-- Every fragment is filed under its own name. -/
def Context.Filed (c : Context) : Prop :=
  ∀ e ∈ c.fragments, e.2.name = e.1

section
variable {c : Context} {set : SelectionSet}

/-- What filing one more fragment under its name keeps, holds of the fragments of a resolved document. -/
theorem Context.fragments_of_ofDocument {P : Entries Fragment → Prop} (hnil : P [])
    (hput : ∀ {es} (f : Fragment), P es → P (es.put f.name f)) {s : Schema} {options : Options} {d : Language.Document}
    (h : Context.ofDocument s options d = .ok c) : P c.fragments := by
  refine foldlM_keeps (P := fun c => P c.fragments) ?_ hnil h
  intro c₀ x c₁ hp hx
  cases x with
  | operation o =>
    obtain ⟨r, -, hx⟩ := bind_eq_ok.mp hx
    cases pure_eq_ok.mp hx
    exact hp
  | fragment f =>
    obtain ⟨r, -, hx⟩ := bind_eq_ok.mp hx
    cases pure_eq_ok.mp hx
    exact hput r hp
  | _ =>
    cases hx
    exact hp

/-- The fragments of a resolved document are filed under their own names. -/
theorem Context.filed_of_ofDocument {s : Schema} {options : Options} {d : Language.Document}
    (h : Context.ofDocument s options d = .ok c) : c.Filed := by
  refine Context.fragments_of_ofDocument (P := fun es => ∀ e ∈ es, e.2.name = e.1) (by simp) ?_ h
  intro es f hes e he
  rcases Entries.mem_put he with he | rfl
  · exact hes e he
  · rfl

/-! ## Fragments that are spread -/

/-- What following one spread keeps, following all spreads of selections keeps. -/
theorem reachAll_keeps {P : List String → Prop} {enter : List String → String → Except Fault (List String)}
    (henter : ∀ {names name out}, P names → enter names name = .ok out → P out) (sels : List Selection) :
    ∀ {names out}, P names → Spreads.reachAll enter names sels = .ok out → P out := by
  have hcons : ∀ {x rest names out}, Spreads.reachAll enter names (x :: rest) = .ok out →
      ∃ middle, Spreads.reach enter names x = .ok middle ∧ Spreads.reachAll enter middle rest = .ok out := by
    intro x rest names out h
    rw [Spreads.reachAll] at h
    split at h
    · exact ⟨_, ‹_›, h⟩
    · cases h
  induction sels using selections_induction with
  | nil =>
    intro names out hp h
    cases h
    exact hp
  | field f rest ihi ih =>
    intro names out hp h
    obtain ⟨middle, hx, h⟩ := hcons h
    refine ih ?_ h
    obtain ⟨_, _, _, _, _, _, sub, _⟩ := f
    cases sub with
    | none =>
      cases hx
      exact hp
    | some sub => exact ihi sub rfl hp hx
  | typeCondition t ts inner rest ihi ih =>
    intro names out hp h
    obtain ⟨middle, hx, h⟩ := hcons h
    exact ih (ihi hp hx) h
  | spread fragment rest ih =>
    intro names out hp h
    obtain ⟨middle, hx, h⟩ := hcons h
    exact ih (henter hp hx) h
  | guarded flag inverted ts inner rest ihi ih =>
    intro names out hp h
    obtain ⟨middle, hx, h⟩ := hcons h
    exact ih (ihi hp hx) h

/-- What one more fragment of the context keeps, holds of all fragments that a set reaches. -/
theorem Context.fragmentsReached_keeps {P : List String → Prop} (hnil : P [])
    (hstep : ∀ {names name f}, P names → c.fragments.get? name = some f → P (names ++ [name])) {reached : List String}
    (h : c.fragmentsReached set = .ok reached) : P reached := by
  have henter : ∀ (fuel : Nat) {names name out}, P names → Spreads.enter c fuel names name = .ok out → P out := by
    intro fuel
    induction fuel with
    | zero =>
      intro names name out hp h
      cases h
      exact hp
    | succ fuel ih =>
      intro names name out hp h
      rw [Spreads.enter] at h
      split at h
      · cases h
        exact hp
      · split at h
        · rename_i f hf
          exact reachAll_keeps ih f.set.selections (hstep hp (Context.fragment_eq_ok.mp hf)) h
        · cases h
  exact reachAll_keeps (henter _) set.selections hnil h

/-- Every fragment that a set reaches is declared. -/
theorem Context.fragmentsReached_declared {reached : List String} (h : c.fragmentsReached set = .ok reached) :
    ∀ name ∈ reached, c.fragments.has name = true := by
  refine Context.fragmentsReached_keeps (P := fun names => ∀ name ∈ names, c.fragments.has name = true)
    (fun name hn => absurd hn List.not_mem_nil) ?_ h
  intro names name f hnames hf n hn
  rcases List.mem_append.mp hn with hn | hn
  · exact hnames n hn
  · cases List.mem_singleton.mp hn
    exact Entries.has_iff.mpr ⟨f, hf⟩

end

end TypedOperations
