import Mathlib.Logic.Relation
import TypedOperations.Proofs.Entries
import TypedOperations.Proofs.Outcome
import TypedOperations.Selection.Spreads

/-!
# Acyclic spreads

Fragments spread one another outside field sub-selections. Where no fragment comes back to itself this way, a walk that
follows spreads ends: a chain of spreads visits a declared fragment at most once, so as many steps as there are fragments,
and one more, are enough (`Context.Acyclic.induction`). Replacing spreads then succeeds (`Context.mergeSpreads_ok`).
-/

namespace TypedOperations

/-- Induction on selections: a selection list is empty or starts with a field, a narrowed set, a spread or a guarded set. -/
theorem selections_induction {motive : List Selection → Prop} (nil : motive [])
    (field : ∀ f rest, (∀ set, f.selectionSet = some set → motive set.selections) → motive rest →
      motive (.field f :: rest))
    (typeCondition : ∀ t possible sels rest, motive sels → motive rest →
      motive (.typeCondition t ⟨possible, sels⟩ :: rest))
    (spread : ∀ name rest, motive rest → motive (.spread name :: rest))
    (guarded : ∀ flag inverted possible sels rest, motive sels → motive rest →
      motive (.guarded flag inverted ⟨possible, sels⟩ :: rest))
    (sels : List Selection) : motive sels := by
  refine @Selection.rec_4 (fun x => ∀ rest, motive rest → motive (x :: rest))
    (fun f => ∀ set, f.selectionSet = some set → motive set.selections) (fun set => motive set.selections)
    (fun o => ∀ set, o = some set → motive set.selections) motive ?_ ?_ ?_ ?_ ?_ ?_ ?_ ?_ nil ?_ sels
  · intro f hf rest hr
    exact field f rest hf hr
  · intro t set hs rest hr
    exact typeCondition t set.possibleTypes set.selections rest hs hr
  · intro name rest hr
    exact spread name rest hr
  · intro flag inverted set hs rest hr
    exact guarded flag inverted set.possibleTypes set.selections rest hs hr
  · intro _ _ _ _ _ _ _ _ h
    exact h
  · intro _ _ h
    exact h
  · intro set h
    cases h
  · intro set hs _ h
    cases h
    exact hs
  · intro x rest hx hr
    exact hx rest hr

mutual

/-- The fragments that a selection spreads outside field sub-selections. -/
def Selection.spreadNames : Selection → List String
  | .field _ => []
  | .typeCondition _ ⟨_, sels⟩ => allSpreadNames sels
  | .spread name => [name]
  | .guarded _ _ ⟨_, sels⟩ => allSpreadNames sels

/-- The fragments that selections spread outside field sub-selections, in order. -/
def allSpreadNames : List Selection → List String
  | [] => []
  | x :: rest => x.spreadNames ++ allSpreadNames rest

end

/-- Selections after one another spread the fragments of both. -/
theorem allSpreadNames_append (a b : List Selection) : allSpreadNames (a ++ b) = allSpreadNames a ++ allSpreadNames b := by
  induction a with
  | nil => rfl
  | cons x rest ih => simp [allSpreadNames, ih]

/-- Every fragment that the selections spread is declared. -/
def Context.Declares (c : Context) (sels : List Selection) : Prop :=
  ∀ name ∈ allSpreadNames sels, c.fragments.has name = true

/-- Every fragment that a fragment spreads is declared. -/
def Context.SpreadsDeclared (c : Context) : Prop :=
  ∀ name f, c.fragments.get? name = some f → c.Declares f.set.selections

/-- One fragment spreads another outside field sub-selections. -/
def Context.Spreads (c : Context) (a b : String) : Prop :=
  ∃ f, c.fragments.get? a = some f ∧ b ∈ allSpreadNames f.set.selections

/-- No fragment comes back to itself through spreads outside field sub-selections. -/
def Context.Acyclic (c : Context) : Prop :=
  ∀ name, ¬Relation.TransGen c.Spreads name name

/-- No name comes back to itself by a relation that only leads to a smaller rank. -/
theorem not_transGen_of_rank {R : String → String → Prop} (rank : String → Nat) (h : ∀ a b, R a b → rank b < rank a)
    (name : String) : ¬Relation.TransGen R name name := by
  have lower : ∀ a b, Relation.TransGen R a b → rank b < rank a := by
    intro a b hab
    induction hab with
    | single hs => exact h _ _ hs
    | tail _ hs ih => exact Nat.lt_trans (h _ _ hs) ih
  exact fun hn => Nat.lt_irrefl _ (lower name name hn)

/-- Spreads that only lead to a smaller rank are acyclic. -/
theorem Context.acyclic_of_rank {c : Context} (rank : String → Nat)
    (h : ∀ e ∈ c.fragments, ∀ b ∈ allSpreadNames e.2.set.selections, rank b < rank e.1) : c.Acyclic := by
  refine not_transGen_of_rank rank ?_
  rintro a b ⟨f, hf, hb⟩
  exact h _ (Entries.mem_of_get? hf) b hb

/-! ## Induction along spreads -/

/-- Induction along a relation that no name comes back to itself by. What holds of a name with one more step, as soon as it
holds of all the names that it is related to, holds of every name with as many steps as there are names. -/
theorem induction_of_acyclic {R : String → String → Prop} (acyclic : ∀ a, ¬Relation.TransGen R a a) (names : List String)
    {motive : Nat → String → Prop}
    (step : ∀ fuel, ∀ name ∈ names, (∀ b ∈ names, R name b → motive fuel b) → motive (fuel + 1) name) :
    ∀ name ∈ names, motive names.length name := by
  -- a chain that has led to a name holds no name twice, so it cannot be as long as the names are many
  have after : ∀ fuel (chain : List String), ∀ name ∈ names, chain.Nodup →
      (∀ a ∈ chain, a ∈ names ∧ Relation.TransGen R a name) → names.length ≤ fuel + chain.length → motive fuel name := by
    intro fuel
    induction fuel with
    | zero =>
      intro chain name hname hnd hchain hlen
      have hnew : name ∉ chain := fun hmem => acyclic name (hchain name hmem).2
      have hle := (List.nodup_cons.mpr ⟨hnew, hnd⟩).length_le_of_subset
        (List.cons_subset.mpr ⟨hname, fun a ha => (hchain a ha).1⟩)
      rw [List.length_cons] at hle
      omega
    | succ fuel ih =>
      intro chain name hname hnd hchain hlen
      apply step fuel name hname
      intro b hb hrelated
      have hnew : name ∉ chain := fun hmem => acyclic name (hchain name hmem).2
      refine ih (name :: chain) b hb (List.nodup_cons.mpr ⟨hnew, hnd⟩) (fun a ha => ?_) ?_
      · rcases List.mem_cons.mp ha with rfl | ha
        · exact ⟨hname, .single hrelated⟩
        · exact ⟨(hchain a ha).1, (hchain a ha).2.tail hrelated⟩
      · rw [List.length_cons]
        omega
  exact fun name hname => after names.length [] name hname List.nodup_nil (by simp) (by simp)

/-- Induction along acyclic spreads. What holds of a name with one more step, as soon as it holds of all that its fragment
spreads, holds of every name with one step more than there are fragments. -/
theorem Context.Acyclic.induction {c : Context} (h : c.Acyclic) {motive : Nat → String → Prop}
    (step : ∀ fuel name,
      (∀ f, c.fragments.get? name = some f → ∀ b ∈ allSpreadNames f.set.selections, motive fuel b) →
        motive (fuel + 1) name) (name : String) :
    motive (c.fragments.length + 1) name := by
  have hlength : c.fragments.names.length = c.fragments.length := by simp [Entries.names]
  -- a name without a fragment spreads nothing and needs one step alone
  have hundeclared : ∀ {fuel name}, name ∉ c.fragments.names → motive (fuel + 1) name :=
    fun hname => step _ _ fun f hf => absurd (Entries.mem_names_of_get? hf) hname
  by_cases hname : name ∈ c.fragments.names
  · rw [← hlength]
    refine induction_of_acyclic h c.fragments.names (motive := fun fuel name => motive (fuel + 1) name) ?_ name hname
    intro fuel name _ ih
    apply step
    intro f hf b hb
    by_cases hdeclared : b ∈ c.fragments.names
    · exact ih b hdeclared ⟨f, hf, hb⟩
    · exact hundeclared hdeclared
  · exact hundeclared hname

/-! ## Replacing spreads ends -/

section
variable {expand : List String → String → Except Fault Selection}

/-- Merging selections depends on how the spreads in them are expanded, and on nothing else. -/
theorem mergeAll_congr {expand' : List String → String → Except Fault Selection} (sels : List Selection) :
    ∀ possible, (∀ name ∈ allSpreadNames sels, ∀ ts, expand ts name = expand' ts name) →
      Spreads.mergeAll expand possible sels = Spreads.mergeAll expand' possible sels := by
  induction sels using selections_induction with
  | nil => exact fun _ _ => rfl
  | field f rest _ ih =>
    intro possible h
    rw [Spreads.mergeAll, Spreads.mergeAll, Spreads.merge, Spreads.merge, ih possible h]
  | typeCondition t ts sels rest ihs ih =>
    intro possible h
    rw [Spreads.mergeAll, Spreads.mergeAll, Spreads.merge, Spreads.merge,
      ihs ts fun n hn => h n (List.mem_append_left _ hn), ih possible fun n hn => h n (List.mem_append_right _ hn)]
  | spread name rest ih =>
    intro possible h
    rw [Spreads.mergeAll, Spreads.mergeAll, Spreads.merge, Spreads.merge, h name List.mem_cons_self,
      ih possible fun n hn => h n (List.mem_cons_of_mem _ hn)]
  | guarded flag inverted ts sels rest ihs ih =>
    intro possible h
    rw [Spreads.mergeAll, Spreads.mergeAll, Spreads.merge, Spreads.merge,
      ihs ts fun n hn => h n (List.mem_append_left _ hn), ih possible fun n hn => h n (List.mem_append_right _ hn)]

/-- Merging selections has the faults of expanding the spreads in them. -/
theorem mergeAll_failsOnly {P : Fault → Prop} (sels : List Selection) :
    ∀ possible, (∀ name ∈ allSpreadNames sels, ∀ ts, FailsOnly P (expand ts name)) →
      FailsOnly P (Spreads.mergeAll expand possible sels) := by
  have hcons : ∀ {possible x rest}, FailsOnly P (Spreads.merge expand possible x) →
      FailsOnly P (Spreads.mergeAll expand possible rest) → FailsOnly P (Spreads.mergeAll expand possible (x :: rest)) := by
    intro possible x rest hx hrest
    rw [Spreads.mergeAll]
    exact hx.bind fun first _ => hrest.bind fun others _ => failsOnly_ok (first :: others)
  induction sels using selections_induction with
  | nil => exact fun _ _ => failsOnly_ok []
  | field f rest _ ih => exact fun possible h => hcons (failsOnly_ok _) (ih possible h)
  | typeCondition t ts sels rest ihs ih =>
    intro possible h
    have hinner := ihs ts fun n hn => h n (List.mem_append_left _ hn)
    exact hcons (hinner.bind fun _ _ => failsOnly_ok _) (ih possible fun n hn => h n (List.mem_append_right _ hn))
  | spread name rest ih =>
    intro possible h
    exact hcons (h name List.mem_cons_self possible) (ih possible fun n hn => h n (List.mem_cons_of_mem _ hn))
  | guarded flag inverted ts sels rest ihs ih =>
    intro possible h
    have hinner := ihs ts fun n hn => h n (List.mem_append_left _ hn)
    exact hcons (hinner.bind fun _ _ => failsOnly_ok _) (ih possible fun n hn => h n (List.mem_append_right _ hn))

/-- Selections are merged when every spread in them can be expanded. -/
theorem mergeAll_ok (sels : List Selection) (possible : List String)
    (h : ∀ name ∈ allSpreadNames sels, ∀ ts, ∃ x, expand ts name = .ok x) :
    ∃ merged, Spreads.mergeAll expand possible sels = .ok merged :=
  failsOnly_false_iff.mp (mergeAll_failsOnly sels possible fun name hname ts => failsOnly_false_iff.mpr (h name hname ts))

end

/-- The fault of a fragment that is not declared. -/
def Context.IsMissing (c : Context) (e : Fault) : Prop :=
  ∃ name, c.fragments.has name = false ∧ e = .unknownFragment name

/-- A fragment that is found is one of the context. -/
theorem Context.fragment_eq_ok {c : Context} {name : String} {f : Fragment} :
    c.fragment name = .ok f ↔ c.fragments.get? name = some f := by
  unfold Context.fragment
  split <;> simp_all

theorem Context.fragment_failsOnly (c : Context) (name : String) : FailsOnly c.IsMissing (c.fragment name) := by
  intro e h
  unfold Context.fragment at h
  split at h
  · cases h
  · rename_i hnone
    cases h
    exact ⟨name, by simp [Entries.has, hnone], rfl⟩

/-- Further steps change nothing for a fragment of a context with acyclic spreads. -/
theorem expand_eq_of_le {c : Context} (acyclic : c.Acyclic) (name : String) :
    ∀ {fuel}, c.fragments.length + 1 ≤ fuel → ∀ possible,
      Spreads.expand c fuel possible name = Spreads.expand c (c.fragments.length + 1) possible name := by
  refine acyclic.induction (motive := fun steps name => ∀ {fuel}, steps ≤ fuel → ∀ possible,
    Spreads.expand c fuel possible name = Spreads.expand c steps possible name) ?_ name
  intro steps name ih fuel hle possible
  obtain ⟨fewer, rfl⟩ : ∃ fewer, fuel = fewer + 1 := ⟨fuel - 1, by omega⟩
  rw [Spreads.expand, Spreads.expand]
  refine bind_congr_ok fun f hf => ?_
  have hsame := mergeAll_congr f.set.selections (possible.filter f.possibleTypes.contains) fun b hb ts =>
    ih f (Context.fragment_eq_ok.mp hf) b hb (Nat.le_of_succ_le_succ hle) ts
  dsimp only
  rw [hsame]

/-- Expanding a spread of a context with acyclic spreads fails only for want of a fragment. -/
theorem expand_failsOnly {c : Context} (acyclic : c.Acyclic) (name : String) :
    ∀ possible, FailsOnly c.IsMissing (Spreads.expand c (c.fragments.length + 1) possible name) := by
  refine acyclic.induction (motive := fun steps name => ∀ possible,
    FailsOnly c.IsMissing (Spreads.expand c steps possible name)) ?_ name
  intro steps name ih possible
  rw [Spreads.expand]
  refine (c.fragment_failsOnly name).bind fun f hf => ?_
  exact (mergeAll_failsOnly f.set.selections _ fun b hb ts => ih f (Context.fragment_eq_ok.mp hf) b hb ts).bind
    fun _ _ => failsOnly_ok _

/-- Replacing the spreads of a context with acyclic spreads fails only for want of a fragment. -/
theorem Context.mergeSpreads_failsOnly {c : Context} (acyclic : c.Acyclic) (set : SelectionSet) :
    FailsOnly c.IsMissing (c.mergeSpreads set) :=
  (mergeAll_failsOnly set.selections set.possibleTypes fun name _ => expand_failsOnly acyclic name).bind
    fun _ _ => failsOnly_ok _

/-! ## Replacing spreads succeeds -/

/-- A declared fragment of a context with declared, acyclic spreads can be expanded with the steps that replacing takes. -/
theorem expand_ok {c : Context} (acyclic : c.Acyclic) (declared : c.SpreadsDeclared) (name : String) :
    c.fragments.has name = true → ∀ possible, ∃ x, Spreads.expand c (c.fragments.length + 1) possible name = .ok x := by
  refine acyclic.induction
    (motive := fun fuel name => c.fragments.has name = true → ∀ possible, ∃ x, Spreads.expand c fuel possible name = .ok x)
    ?_ name
  intro fuel name ih hname possible
  obtain ⟨f, hf⟩ := Entries.has_iff.mp hname
  have hfrag : c.fragment name = .ok f := by rw [Context.fragment, hf]
  obtain ⟨merged, hm⟩ := mergeAll_ok f.set.selections (possible.filter f.possibleTypes.contains)
    (fun b hb => ih f hf b hb (declared name f hf b hb))
  exact ⟨.typeCondition f.condition ⟨possible.filter f.possibleTypes.contains, merged⟩,
    by rw [Spreads.expand, hfrag]; simp only [bind, Except.bind, hm]; rfl⟩

/-- Spreads are replaced in every selection set of a context with declared, acyclic spreads. -/
theorem Context.mergeSpreads_ok {c : Context} (acyclic : c.Acyclic) (declared : c.SpreadsDeclared) {set : SelectionSet}
    (here : c.Declares set.selections) : ∃ merged, c.mergeSpreads set = .ok merged := by
  obtain ⟨merged, hm⟩ := mergeAll_ok set.selections set.possibleTypes
    (fun name hn => expand_ok acyclic declared name (here name hn))
  exact ⟨⟨set.possibleTypes, merged⟩, by rw [Context.mergeSpreads, hm]; rfl⟩

end TypedOperations
