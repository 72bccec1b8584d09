import TypedOperations.Proofs.Selection.Passes

/-!
# Record cases

The record case that a class is made from says what all possible types of a set have in common. For a set before the passes
these are the fields that a walk through the set meets (`common_of_casesOf`); a key is unconditional there exactly if all
possible types ask for it whatever the variables are (`unconditional_iff_requires`).
-/

namespace TypedOperations

/-- The record case that the class of a selection set is made from. -/
def Context.casesOf (c : Context) (set : SelectionSet) : Except Fault RecordCase := do
  RecordCase.ofSet (← c.mergeSpreads set).inlineRedundant

section
variable {c : Context} {set : SelectionSet} {cases : RecordCase} {os : List Occurrence}

/-- A record case is made from the set after the passes. -/
theorem casesOf_ok (h : c.casesOf set = .ok cases) :
    ∃ merged fields, c.mergeSpreads set = .ok merged ∧
      merged.inlineRedundant.collectFields set.possibleTypes = .ok fields ∧
      cases.common = ⟨set.possibleTypes, fields.values⟩ ∧
      recordsFrom merged.inlineRedundant [] set.possibleTypes = .ok cases.records := by
  obtain ⟨merged, hm, h⟩ := bind_eq_ok.mp h
  obtain ⟨fields, hf, h⟩ := bind_eq_ok.mp h
  obtain ⟨records, hr, h⟩ := bind_eq_ok.mp h
  cases pure_eq_ok.mp h
  rw [(Context.passes_of_mergeSpreads hm).1] at hf hr ⊢
  exact ⟨merged, fields, hm, hf, rfl, hr⟩

/-- What all possible types have in common is what a visit for all of them meets. -/
theorem common_of_casesOf (hc : c.FragmentsCover) (hguards : AllGuardsCover set.possibleTypes set.selections)
    (hne : set.possibleTypes ≠ []) (hcases : c.casesOf set = .ok cases)
    (h : c.Walks (.collecting set.possibleTypes) set.selections os) : cases.common.fields = (grouped os).values := by
  obtain ⟨merged, fields, hm, hf, hcommon, -⟩ := casesOf_ok hcases
  rw [collectFields_of_mergeSpreads hc hguards hne (List.Subset.refl _) hm h] at hf
  cases hf
  rw [hcommon]

/-- All object types among `types` ask for the key, whatever the variables are. -/
def Context.Requires (c : Context) (types : List String) (sels : List Selection) (key : String) : Prop :=
  ∃ os, c.Walks (.collecting types) sels os ∧ ∃ o ∈ os, o.conditional = false ∧ o.key = key

/-- An occurrence that is not conditional stands in no guard. -/
theorem Occurrence.guards_of_conditional {o : Occurrence} (h : o.conditional = false) : o.guards = [] := by
  simpa [Occurrence.conditional] using (Bool.or_eq_false_iff.mp h).1

/-- What all possible types ask for, whatever the variables are, is met by executing on each of them. -/
theorem key_of_requires {types : List String} {sels : List Selection} {key : String} (h : c.Requires types sels key)
    {type : String} (htype : type ∈ types) {values : String → Bool} {os : List Occurrence}
    (hos : c.Walks (.executing values type) sels os) : ∃ o ∈ os, o.key = key := by
  obtain ⟨all, hall, o, ho, hconditional, hkey⟩ := h
  have hsub : (Visit.executing values type).types ⊆ types := by simpa [Visit.executing] using htype
  refine ⟨o, hall.mem_of_admits hos hsub o ho ?_, hkey⟩
  simp [Occurrence.guards_of_conditional hconditional]

/-- The passes keep which keys are asked for whatever the variables are. Guards need not allow anything for that. -/
theorem requires_passes (acyclic : c.Acyclic) {merged : SelectionSet} (hm : c.mergeSpreads set = .ok merged)
    {types : List String} (ht : types ⊆ set.possibleTypes) {key : String} :
    c.Requires types merged.inlineRedundant.selections key ↔ c.Requires types set.selections key := by
  obtain ⟨all, hall⟩ := acyclic.exists_walks (.collecting types) set.selections
  obtain ⟨all', hall'⟩ := acyclic.exists_walks (.collecting types) merged.inlineRedundant.selections
  -- what stands in no guard is found by a visit that enters none
  obtain ⟨free, hfree⟩ := acyclic.exists_walks (.unguarded types) set.selections
  have hfree' : c.Walks (.unguarded types) merged.inlineRedundant.selections free := by
    have hno : (Visit.unguarded types).EntersGuards → False := by
      rintro ⟨g, hg⟩
      cases hg
    exact hfree.passes (fun e => (hno e).elim) (fun e => (hno e).elim) ht hm
  have hguards : ∀ {v : Visit} {o : Occurrence}, o.conditional = false → ∀ g ∈ o.guards, v.admits g = true := by
    intro v o hc g hg
    rw [Occurrence.guards_of_conditional hc] at hg
    cases hg
  constructor
  · rintro ⟨os, hos, o, ho, hc, hkey⟩
    rw [hos.unique hall'] at ho
    have hin := hall'.mem_of_admits hfree' (List.Subset.refl _) o ho (hguards hc)
    exact ⟨all, hall, o, hfree.mem_of_admits hall (List.Subset.refl _) o hin (hguards hc), hc, hkey⟩
  · rintro ⟨os, hos, o, ho, hc, hkey⟩
    rw [hos.unique hall] at ho
    have hin := hall.mem_of_admits hfree (List.Subset.refl _) o ho (hguards hc)
    exact ⟨all', hall', o, hfree'.mem_of_admits hall' (List.Subset.refl _) o hin (hguards hc), hc, hkey⟩

/-- A field that all possible types have in common is unconditional exactly if all of them ask for its key whatever the
variables are. -/
theorem unconditional_iff_requires (acyclic : c.Acyclic) (hne : set.possibleTypes ≠ []) (hcases : c.casesOf set = .ok cases)
    {key : String} :
    (∃ f ∈ cases.common.fields, f.conditional = false ∧ f.responseKey = key) ↔
      c.Requires set.possibleTypes set.selections key := by
  obtain ⟨merged, fields, hm, hf, hcommon, -⟩ := casesOf_ok hcases
  obtain ⟨os, hos⟩ := acyclic.exists_walks (.collecting set.possibleTypes) merged.inlineRedundant.selections
  rw [collectFields_eq hne (Context.passes_of_mergeSpreads hm).2 hos] at hf
  cases hf
  rw [hcommon, ← requires_passes acyclic hm (List.Subset.refl _), unconditional_grouped]
  constructor
  · exact fun h => ⟨os, hos, h⟩
  · rintro ⟨os', hos', h⟩
    rw [hos.unique hos']
    exact h

end

end TypedOperations
