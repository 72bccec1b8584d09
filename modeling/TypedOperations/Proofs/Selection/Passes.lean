import TypedOperations.Proofs.Outcome
import TypedOperations.Proofs.Selection.Grouping
import TypedOperations.Selection.Inline

/-!
# The passes keep what applies

Before fields are collected, spreads are replaced by type conditions and redundant type conditions are spliced in. Both
passes look at possible types that differ from those a visit asks for: replacing narrows a fragment to the types around its
spread but leaves the conditions in it as they are, and splicing compares a condition with the set around it. Neither changes
what a visit meets, as long as the types of the visit are possible in every set it enters (`Walks.inlineAll`,
`Walks.mergeAll`). The sets of guards keep to this if they allow all types of the sets they stand in (`AllGuardsCover`).
-/

namespace TypedOperations

mutual

/-- In a set over the types `around`, the guarded sets of the selection allow the types of the sets they stand in. -/
def Selection.GuardsCover (around : List String) : Selection → Prop
  | .field _ => True
  | .typeCondition _ ⟨possible, sels⟩ => AllGuardsCover possible sels
  | .spread _ => True
  | .guarded _ _ ⟨possible, sels⟩ => around ⊆ possible ∧ AllGuardsCover possible sels

/-- In a set over the types `around`, the guarded sets of the selections allow the types of the sets they stand in. -/
def AllGuardsCover (around : List String) : List Selection → Prop
  | [] => True
  | x :: rest => x.GuardsCover around ∧ AllGuardsCover around rest

end

/-- Guards in every fragment allow the types of the sets they stand in, and the set of the fragment has its types. -/
def Context.FragmentsCover (c : Context) : Prop :=
  ∀ name f, c.fragments.get? name = some f →
    f.set.possibleTypes = f.possibleTypes ∧ AllGuardsCover f.set.possibleTypes f.set.selections

/-- Guards that allow some types allow any fewer. -/
theorem AllGuardsCover.anti {around fewer : List String} {sels : List Selection} (h : AllGuardsCover around sels)
    (hsub : fewer ⊆ around) : AllGuardsCover fewer sels := by
  induction sels with
  | nil => trivial
  | cons x rest ih =>
    refine ⟨?_, ih h.2⟩
    cases x with
    | field f => trivial
    | typeCondition t set => exact h.1
    | spread name => trivial
    | guarded flag inverted set => exact ⟨List.Subset.trans hsub h.1.1, h.1.2⟩

/-- Types are covered exactly if they are all among those that cover. -/
theorem coveredBy_iff {types cover : List String} : coveredBy types cover = true ↔ types ⊆ cover := by
  simp [coveredBy, List.subset_def]

variable {c : Context} {v : Visit} {sels : List Selection} {os : List Occurrence}

/-! ## Splicing redundant conditions -/

/-- Splicing in redundant type conditions changes nothing for a visit whose types are possible in the set. -/
theorem Context.Walks.inlineAll (h : c.Walks v sels os) :
    ∀ {possible : List String}, (v.EntersGuards → AllGuardsCover possible sels) → v.types ⊆ possible →
      c.Walks v (inlineAll possible sels) os := by
  induction h with
  | nil => exact fun _ _ => .nil
  | field f _ ih => exact fun hg ht => .field f (ih (fun e => (hg e).2) ht)
  | @enterCondition t ts _ _ _ _ he _ _ ihi ih =>
    intro possible hg ht
    simp only [TypedOperations.inlineAll, Selection.inlined]
    split
    · rename_i hcov
      have hinner := ihi (fun e => AllGuardsCover.anti (hg e).1 (coveredBy_iff.mp hcov)) ht
      exact hinner.append (ih (fun e => (hg e).2) ht)
    · exact .enterCondition he (ihi (fun e => (hg e).1) he) (ih (fun e => (hg e).2) ht)
  | @passCondition t ts _ _ _ hp _ ih =>
    intro possible hg ht
    -- a condition that the visit passes does not cover the set, which has all types of the visit
    have hcov : ¬coveredBy possible ts = true := fun h => hp (List.Subset.trans ht (coveredBy_iff.mp h))
    simp only [TypedOperations.inlineAll, Selection.inlined, hcov, Bool.false_eq_true, if_false]
    exact .passCondition hp (ih (fun e => (hg e).2) ht)
  | enterSpread hf he hi _ _ ih => exact fun hg ht => .enterSpread hf he hi (ih (fun e => (hg e).2) ht)
  | passSpread hp _ ih => exact fun hg ht => .passSpread hp (ih (fun e => (hg e).2) ht)
  | enterGuard ha _ _ ihi ih =>
    intro possible hg ht
    obtain ⟨hsub, hcov⟩ := (hg ⟨_, ha⟩).1
    exact .enterGuard ha (ihi (fun _ => hcov) (List.Subset.trans ht hsub)) (ih (fun e => (hg e).2) ht)
  | passGuard hp _ ih => exact fun hg ht => .passGuard hp (ih (fun e => (hg e).2) ht)

/-! ## Replacing spreads -/

/-- Merged selections are the first one merged, followed by the others merged. -/
theorem mergeAll_cons_ok {expand : List String → String → Except Fault Selection} {possible : List String} {x : Selection}
    {merged : List Selection} (h : Spreads.mergeAll expand possible (x :: sels) = .ok merged) :
    ∃ first others, Spreads.merge expand possible x = .ok first ∧ Spreads.mergeAll expand possible sels = .ok others ∧
      merged = first :: others := by
  rw [Spreads.mergeAll, bind_eq_ok] at h
  obtain ⟨first, hx, h⟩ := h
  obtain ⟨others, hrest, h⟩ := bind_eq_ok.mp h
  exact ⟨first, others, hx, hrest, (pure_eq_ok.mp h).symm⟩

/-- A merged type condition keeps its type and its possible types. -/
theorem merge_typeCondition_ok {expand : List String → String → Except Fault Selection} {possible ts : List String}
    {t : NamedType} {y : Selection} (h : Spreads.merge expand possible (.typeCondition t ⟨ts, sels⟩) = .ok y) :
    ∃ inner, Spreads.mergeAll expand ts sels = .ok inner ∧ y = .typeCondition t ⟨ts, inner⟩ := by
  obtain ⟨inner, hi, h⟩ := bind_eq_ok.mp h
  exact ⟨inner, hi, (pure_eq_ok.mp h).symm⟩

/-- A merged guarded set keeps its guard and its possible types. -/
theorem merge_guarded_ok {expand : List String → String → Except Fault Selection} {possible ts : List String} {flag : String}
    {inverted : Bool} {y : Selection} (h : Spreads.merge expand possible (.guarded flag inverted ⟨ts, sels⟩) = .ok y) :
    ∃ inner, Spreads.mergeAll expand ts sels = .ok inner ∧ y = .guarded flag inverted ⟨ts, inner⟩ := by
  obtain ⟨inner, hi, h⟩ := bind_eq_ok.mp h
  exact ⟨inner, hi, (pure_eq_ok.mp h).symm⟩

/-- An expanded spread is the fragment narrowed to the types around it, merged with one step fewer. -/
theorem expand_cases {fuel : Nat} {possible : List String} {name : String} {y : Selection}
    (h : Spreads.expand c fuel possible name = .ok y) :
    ∃ fewer f inner, fuel = fewer + 1 ∧ c.fragments.get? name = some f ∧
      Spreads.mergeAll (Spreads.expand c fewer) (possible.filter f.possibleTypes.contains) f.set.selections = .ok inner ∧
      y = .typeCondition f.condition ⟨possible.filter f.possibleTypes.contains, inner⟩ := by
  cases fuel with
  | zero => cases h
  | succ fewer =>
    obtain ⟨f, hf, h⟩ := bind_eq_ok.mp h
    obtain ⟨inner, hi, h⟩ := bind_eq_ok.mp h
    refine ⟨fewer, f, inner, rfl, ?_, hi, (pure_eq_ok.mp h).symm⟩
    unfold Context.fragment at hf
    split at hf
    · cases hf
      assumption
    · cases hf

/-- The types around a spread that its fragment allows are those of the visit as soon as the visit enters the fragment. -/
theorem subset_narrowed_iff {types around possible : List String} (h : types ⊆ around) :
    types ⊆ around.filter possible.contains ↔ types ⊆ possible := by
  simp only [List.subset_def, List.mem_filter, List.contains_iff_mem] at *
  exact ⟨fun hs a ha => (hs ha).2, fun hs a ha => ⟨h ha, hs ha⟩⟩

/-- The guards in a fragment allow the types that it is narrowed to. -/
theorem Context.FragmentsCover.narrowed (hc : c.FragmentsCover) {name : String} {f : Fragment}
    (hf : c.fragments.get? name = some f) (possible : List String) :
    AllGuardsCover (possible.filter f.possibleTypes.contains) f.set.selections := by
  refine (hc name f hf).2.anti ?_
  rw [(hc name f hf).1]
  intro a ha
  simpa using (List.mem_filter.mp ha).2

/-- Replacing spreads by type conditions changes nothing for a visit whose types are possible in the set. -/
theorem Context.Walks.mergeAll (hc : v.EntersGuards → c.FragmentsCover) (h : c.Walks v sels os) :
    ∀ {fuel : Nat} {possible : List String} {merged : List Selection},
      (v.EntersGuards → AllGuardsCover possible sels) → v.types ⊆ possible →
      Spreads.mergeAll (Spreads.expand c fuel) possible sels = .ok merged → c.Walks v merged os := by
  induction h with
  | nil =>
    intro fuel possible merged _ _ hm
    cases hm
    exact .nil
  | field f _ ih =>
    intro fuel possible merged hg ht hm
    obtain ⟨_, _, hx, hrest, rfl⟩ := mergeAll_cons_ok hm
    cases hx
    exact .field f (ih (fun e => (hg e).2) ht hrest)
  | enterCondition he _ _ ihi ih =>
    intro fuel possible merged hg ht hm
    obtain ⟨_, _, hx, hrest, rfl⟩ := mergeAll_cons_ok hm
    obtain ⟨_, hi, rfl⟩ := merge_typeCondition_ok hx
    exact .enterCondition he (ihi (fun e => (hg e).1) he hi) (ih (fun e => (hg e).2) ht hrest)
  | passCondition hp _ ih =>
    intro fuel possible merged hg ht hm
    obtain ⟨_, _, hx, hrest, rfl⟩ := mergeAll_cons_ok hm
    obtain ⟨_, -, rfl⟩ := merge_typeCondition_ok hx
    exact .passCondition hp (ih (fun e => (hg e).2) ht hrest)
  | enterSpread hf he _ _ ihi ih =>
    intro fuel possible merged hg ht hm
    obtain ⟨_, _, hx, hrest, rfl⟩ := mergeAll_cons_ok hm
    obtain ⟨_, f, _, rfl, hf', hi, rfl⟩ := expand_cases hx
    rw [hf] at hf'
    cases hf'
    have ht' := (subset_narrowed_iff ht).mpr he
    exact .enterCondition ht' (ihi (fun e => (hc e).narrowed hf possible) ht' hi) (ih (fun e => (hg e).2) ht hrest)
  | passSpread hp _ ih =>
    intro fuel possible merged hg ht hm
    obtain ⟨_, _, hx, hrest, rfl⟩ := mergeAll_cons_ok hm
    obtain ⟨_, f, _, rfl, hf, _, rfl⟩ := expand_cases hx
    exact .passCondition (fun h => hp f hf ((subset_narrowed_iff ht).mp h)) (ih (fun e => (hg e).2) ht hrest)
  | enterGuard ha _ _ ihi ih =>
    intro fuel possible merged hg ht hm
    obtain ⟨_, _, hx, hrest, rfl⟩ := mergeAll_cons_ok hm
    obtain ⟨_, hi, rfl⟩ := merge_guarded_ok hx
    obtain ⟨hsub, hcov⟩ := (hg ⟨_, ha⟩).1
    exact .enterGuard ha (ihi (fun _ => hcov) (List.Subset.trans ht hsub) hi) (ih (fun e => (hg e).2) ht hrest)
  | passGuard hp _ ih =>
    intro fuel possible merged hg ht hm
    obtain ⟨_, _, hx, hrest, rfl⟩ := mergeAll_cons_ok hm
    obtain ⟨_, -, rfl⟩ := merge_guarded_ok hx
    exact .passGuard hp (ih (fun e => (hg e).2) ht hrest)

/-- Merged selections hold no spreads if no expanded spread does. -/
theorem allSpreadNames_mergeAll {expand : List String → String → Except Fault Selection}
    (hexpand : ∀ possible name y, expand possible name = .ok y → y.spreadNames = []) (sels : List Selection) :
    ∀ possible merged, Spreads.mergeAll expand possible sels = .ok merged → allSpreadNames merged = [] := by
  induction sels using selections_induction with
  | nil =>
    intro possible merged hm
    cases hm
    rfl
  | field f rest _ ih =>
    intro possible merged hm
    obtain ⟨_, others, hx, hrest, rfl⟩ := mergeAll_cons_ok hm
    cases hx
    exact ih possible others hrest
  | typeCondition t ts sels rest ihs ih =>
    intro possible merged hm
    obtain ⟨_, others, hx, hrest, rfl⟩ := mergeAll_cons_ok hm
    obtain ⟨inner, hi, rfl⟩ := merge_typeCondition_ok hx
    simp [allSpreadNames, Selection.spreadNames, ihs ts inner hi, ih possible others hrest]
  | spread name rest ih =>
    intro possible merged hm
    obtain ⟨y, others, hx, hrest, rfl⟩ := mergeAll_cons_ok hm
    simp [allSpreadNames, hexpand possible name y hx, ih possible others hrest]
  | guarded flag inverted ts sels rest ihs ih =>
    intro possible merged hm
    obtain ⟨_, others, hx, hrest, rfl⟩ := mergeAll_cons_ok hm
    obtain ⟨inner, hi, rfl⟩ := merge_guarded_ok hx
    simp [allSpreadNames, Selection.spreadNames, ihs ts inner hi, ih possible others hrest]

/-- An expanded spread holds no spreads. -/
theorem spreadNames_expand (fuel : Nat) :
    ∀ possible name y, Spreads.expand c fuel possible name = .ok y → y.spreadNames = [] := by
  induction fuel with
  | zero =>
    intro possible name y h
    cases h
  | succ fuel ih =>
    intro possible name y h
    obtain ⟨_, f, inner, hfuel, -, hi, rfl⟩ := expand_cases h
    cases hfuel
    exact allSpreadNames_mergeAll ih f.set.selections _ inner hi

/-- The guards of merged selections allow the types of the sets they stand in, if those of every expanded spread do. -/
theorem mergeAll_covers {expand : List String → String → Except Fault Selection}
    (hexpand : ∀ possible name y, expand possible name = .ok y → y.GuardsCover possible) (sels : List Selection) :
    ∀ possible merged, AllGuardsCover possible sels → Spreads.mergeAll expand possible sels = .ok merged →
      AllGuardsCover possible merged := by
  induction sels using selections_induction with
  | nil =>
    intro possible merged _ hm
    cases hm
    trivial
  | field f rest _ ih =>
    intro possible merged hg hm
    obtain ⟨_, others, hx, hrest, rfl⟩ := mergeAll_cons_ok hm
    cases hx
    exact ⟨trivial, ih possible others hg.2 hrest⟩
  | typeCondition t ts sels rest ihs ih =>
    intro possible merged hg hm
    obtain ⟨_, others, hx, hrest, rfl⟩ := mergeAll_cons_ok hm
    obtain ⟨inner, hi, rfl⟩ := merge_typeCondition_ok hx
    exact ⟨ihs ts inner hg.1 hi, ih possible others hg.2 hrest⟩
  | spread name rest ih =>
    intro possible merged hg hm
    obtain ⟨y, others, hx, hrest, rfl⟩ := mergeAll_cons_ok hm
    exact ⟨hexpand possible name y hx, ih possible others hg.2 hrest⟩
  | guarded flag inverted ts sels rest ihs ih =>
    intro possible merged hg hm
    obtain ⟨_, others, hx, hrest, rfl⟩ := mergeAll_cons_ok hm
    obtain ⟨inner, hi, rfl⟩ := merge_guarded_ok hx
    exact ⟨⟨hg.1.1, ihs ts inner hg.1.2 hi⟩, ih possible others hg.2 hrest⟩

/-- The guards of an expanded spread allow the types of the sets they stand in. -/
theorem expand_covers (hc : c.FragmentsCover) (fuel : Nat) :
    ∀ possible name y, Spreads.expand c fuel possible name = .ok y → y.GuardsCover possible := by
  induction fuel with
  | zero =>
    intro possible name y h
    cases h
  | succ fuel ih =>
    intro possible name y h
    obtain ⟨_, f, inner, hfuel, hf, hi, rfl⟩ := expand_cases h
    cases hfuel
    exact mergeAll_covers ih f.set.selections _ inner (hc.narrowed hf possible) hi

/-! ## Collecting -/

/-- Splicing in redundant type conditions adds no spreads. -/
theorem allSpreadNames_inlineAll (sels : List Selection) :
    ∀ possible, allSpreadNames sels = [] → allSpreadNames (inlineAll possible sels) = [] := by
  induction sels using selections_induction with
  | nil => exact fun _ _ => rfl
  | field f rest _ ih => exact fun possible h => ih possible h
  | typeCondition t ts sels rest ihs ih =>
    intro possible h
    obtain ⟨h1, h2⟩ := List.append_eq_nil_iff.mp h
    simp only [inlineAll, Selection.inlined]
    split
    · rw [allSpreadNames_append, ihs possible h1, ih possible h2, List.append_nil]
    · simp [allSpreadNames, Selection.spreadNames, ihs ts h1, ih possible h2]
  | spread name rest _ => exact fun _ h => by simp [allSpreadNames, Selection.spreadNames] at h
  | guarded flag inverted ts sels rest ihs ih =>
    intro possible h
    obtain ⟨h1, h2⟩ := List.append_eq_nil_iff.mp h
    simp [inlineAll, Selection.inlined, allSpreadNames, Selection.spreadNames, ihs ts h1, ih possible h2]

/-- Inside a conditional set, occurrences are put as those inside a guard. -/
theorem putOccurrence_under (conditional : Bool) (fields : Entries Field) (g : Resolve.Guard) (o : Occurrence) :
    putOccurrence conditional fields (o.under g) = putOccurrence true fields o := by
  simp [putOccurrence]

/-- Collecting puts the occurrences that a visit for the types meets, one after another. -/
theorem collectAll_eq {types : List String} (hne : types ≠ []) (h : c.Walks (.collecting types) sels os) :
    ∀ (conditional : Bool) (fields : Entries Field), allSpreadNames sels = [] →
      collectAll types conditional fields sels = .ok (os.foldl (putOccurrence conditional) fields) := by
  induction h with
  | nil => exact fun _ _ _ => rfl
  | field f _ ih =>
    intro conditional fields hs
    have hput : putOccurrence conditional fields ⟨f, []⟩ = putField fields f conditional := by simp [putOccurrence]
    rw [collectAll, Selection.collect, List.foldl_cons, hput]
    exact ih conditional _ hs
  | @enterCondition t ts _ _ _ _ he _ _ ihi ih =>
    intro conditional fields hs
    obtain ⟨h1, h2⟩ := List.append_eq_nil_iff.mp hs
    have hin : (!types.isEmpty && types.all ts.contains) = true := by
      rw [Bool.and_eq_true, Bool.not_eq_true', List.isEmpty_eq_false_iff]
      exact ⟨hne, coveredBy_iff.mpr he⟩
    rw [collectAll, Selection.collect, if_pos hin, ihi conditional fields h1, List.foldl_append]
    exact ih conditional _ h2
  | @passCondition t ts _ _ _ hp _ ih =>
    intro conditional fields hs
    obtain ⟨h1, h2⟩ := List.append_eq_nil_iff.mp hs
    have hout : ¬(!types.isEmpty && types.all ts.contains) = true := by
      rw [Bool.and_eq_true]
      exact fun h => hp (coveredBy_iff.mp h.2)
    rw [collectAll, Selection.collect, if_neg hout]
    exact ih conditional fields h2
  | enterSpread _ _ _ _ _ _ => exact fun _ _ hs => by simp [allSpreadNames, Selection.spreadNames] at hs
  | passSpread _ _ _ => exact fun _ _ hs => by simp [allSpreadNames, Selection.spreadNames] at hs
  | enterGuard _ _ _ ihi ih =>
    intro conditional fields hs
    obtain ⟨h1, h2⟩ := List.append_eq_nil_iff.mp hs
    rw [collectAll, Selection.collect, ihi true fields h1, List.foldl_append, List.foldl_map]
    simp only [putOccurrence_under]
    exact ih conditional _ h2
  | passGuard hp _ _ => cases hp

/-- Both passes together change nothing for a visit whose types are possible in the set. -/
theorem Context.Walks.passes {set merged : SelectionSet} (hc : v.EntersGuards → c.FragmentsCover)
    (hg : v.EntersGuards → AllGuardsCover set.possibleTypes set.selections) (ht : v.types ⊆ set.possibleTypes)
    (hm : c.mergeSpreads set = .ok merged) (h : c.Walks v set.selections os) :
    c.Walks v merged.inlineRedundant.selections os := by
  obtain ⟨sels', hsels, hm⟩ := bind_eq_ok.mp hm
  cases pure_eq_ok.mp hm
  have hcov : v.EntersGuards → AllGuardsCover set.possibleTypes sels' :=
    fun e => mergeAll_covers (expand_covers (hc e) _) set.selections set.possibleTypes sels' (hg e) hsels
  exact (h.mergeAll hc hg ht hsels).inlineAll hcov ht

/-- After both passes there are no spreads, and the possible types are as before. -/
theorem Context.passes_of_mergeSpreads {set merged : SelectionSet} (hm : c.mergeSpreads set = .ok merged) :
    merged.inlineRedundant.possibleTypes = set.possibleTypes ∧ allSpreadNames merged.inlineRedundant.selections = [] := by
  obtain ⟨sels', hsels, hm⟩ := bind_eq_ok.mp hm
  cases pure_eq_ok.mp hm
  have hnone := allSpreadNames_mergeAll (spreadNames_expand _) set.selections set.possibleTypes sels' hsels
  exact ⟨rfl, allSpreadNames_inlineAll sels' set.possibleTypes hnone⟩

/-- A set without spreads gives the fields that a visit for the types meets, by response key. -/
theorem collectFields_eq {set : SelectionSet} {types : List String} (hne : types ≠ [])
    (hnone : allSpreadNames set.selections = []) (h : c.Walks (.collecting types) set.selections os) :
    set.collectFields types = .ok (grouped os) := by
  rw [← foldl_putOccurrence]
  exact collectAll_eq hne h false [] hnone

/-- The two passes and the collection after them give what a visit of the unchanged selections meets, by response key. -/
theorem collectFields_of_mergeSpreads (hc : c.FragmentsCover) {set merged : SelectionSet} {types : List String}
    (hguards : AllGuardsCover set.possibleTypes set.selections) (hne : types ≠ []) (ht : types ⊆ set.possibleTypes)
    (hm : c.mergeSpreads set = .ok merged) (h : c.Walks (.collecting types) set.selections os) :
    merged.inlineRedundant.collectFields types = .ok (grouped os) :=
  collectFields_eq hne (Context.passes_of_mergeSpreads hm).2 (h.passes (fun _ => hc) (fun _ => hguards) ht hm)

/-- The passes keep what applies. In a context with declared, acyclic spreads whose guards allow the types of the sets they
stand in, collecting the fields of a set for some of its possible types, after spreads were replaced and redundant type
conditions spliced in, gives exactly what a walk through the set as it is meets for these types, grouped by response key. -/
theorem collectFields_after_passes (c : Context) (acyclic : c.Acyclic) (declared : c.SpreadsDeclared)
    (fragments : c.FragmentsCover) (set : SelectionSet) (here : c.Declares set.selections)
    (guards : AllGuardsCover set.possibleTypes set.selections) (types : List String) (nonempty : types ≠ [])
    (possible : types ⊆ set.possibleTypes) :
    ∃ merged os, c.mergeSpreads set = .ok merged ∧ c.Walks (.collecting types) set.selections os ∧
      merged.inlineRedundant.collectFields types = .ok (grouped os) := by
  obtain ⟨merged, hm⟩ := Context.mergeSpreads_ok acyclic declared here
  obtain ⟨os, hos⟩ := acyclic.exists_walks (.collecting types) set.selections
  exact ⟨merged, os, hm, hos, collectFields_of_mergeSpreads fragments guards nonempty possible hm hos⟩

/-- Two fragments on pets: one spreads the other below a type condition and below a guard. -/
def petFragments : Context where
  schema := default
  operations := []
  fragments :=
    [("Pet", ⟨"Pet", ⟨"Pet", .union⟩, ["Cat", "Dog"], ⟨["Cat", "Dog"],
        [.typeCondition ⟨"Dog", .object⟩ ⟨["Dog"], [.field { responseKey := "bark", name := "bark", type := .undeclared },
          .spread "Named"]⟩, .guarded "short" true ⟨["Cat", "Dog"], [.spread "Named"]⟩]⟩, ""⟩),
     ("Named", ⟨"Named", ⟨"Dog", .object⟩, ["Dog"], ⟨["Dog"],
        [.field { responseKey := "name", name := "name", type := .undeclared }]⟩, ""⟩)]
  typesUsed := []
  options := default

/-- A set over pets: a guarded field, and a spread of the outer fragment. -/
def petSet : SelectionSet :=
  ⟨["Cat", "Dog"],
    [.guarded "named" false ⟨["Cat", "Dog"], [.field { responseKey := "name", name := "name", type := .undeclared }]⟩,
     .spread "Pet"]⟩

/-- The pet fragments are acyclic: only the outer one spreads another. -/
theorem petFragments_acyclic : petFragments.Acyclic :=
  Context.acyclic_of_rank (fun name => if name = "Pet" then 1 else 0) (by decide)

theorem collectFields_after_passes_petSet :
    petFragments.Acyclic ∧ petFragments.SpreadsDeclared ∧ petFragments.FragmentsCover ∧
      petFragments.Declares petSet.selections ∧ AllGuardsCover petSet.possibleTypes petSet.selections ∧
      ∃ merged os, petFragments.mergeSpreads petSet = .ok merged ∧
        petFragments.Walks (.collecting ["Dog"]) petSet.selections os ∧
        merged.inlineRedundant.collectFields ["Dog"] = .ok (grouped os) := by
  have hdeclared : petFragments.SpreadsDeclared := by
    intro name f hf
    have hall : ∀ e ∈ petFragments.fragments, ∀ n ∈ allSpreadNames e.2.set.selections,
        petFragments.fragments.has n = true := by decide
    exact hall (name, f) (Entries.mem_of_get? hf)
  have hcover : petFragments.FragmentsCover := by
    intro name f hf
    have hmem := Entries.mem_of_get? hf
    simp only [petFragments, List.mem_cons, Prod.mk.injEq, List.not_mem_nil, or_false] at hmem
    rcases hmem with ⟨-, rfl⟩ | ⟨-, rfl⟩
    · simp [AllGuardsCover, Selection.GuardsCover]
    · simp [AllGuardsCover, Selection.GuardsCover]
  have hhere : petFragments.Declares petSet.selections := by
    unfold Context.Declares
    decide
  have hguards : AllGuardsCover petSet.possibleTypes petSet.selections := by
    simp [petSet, AllGuardsCover, Selection.GuardsCover]
  exact ⟨petFragments_acyclic, hdeclared, hcover, hhere, hguards,
    collectFields_after_passes petFragments petFragments_acyclic hdeclared hcover petSet hhere hguards ["Dog"]
      (by simp) (by simp [petSet])⟩

end TypedOperations
