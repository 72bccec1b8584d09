import TypedOperations.Proofs.Selection.Merging

/-!
# Fields that are collected

The fields of a set are collected for all of its possible types, after spreads were replaced and redundant type conditions
spliced in. What is met on the way is said by one pass over the selections (`allOccurring`), for any possible types, also for
none; the fields that all types have in common are these occurrences by response key (`Context.common_of_collected`). No pass
makes a field up: what is collected is on offer in the set as it is written, through type conditions, guards and the fragments
that are spread (`Context.Offers`, `Context.offers_of_collected`).
-/

namespace TypedOperations

mutual

/-- The occurrences that collecting for the types meets in a selection without spreads. -/
def Selection.occurring (types : List String) : Selection → List Occurrence
  | .field f => [⟨f, []⟩]
  | .typeCondition _ ⟨ts, sels⟩ => if !types.isEmpty && types.all ts.contains then allOccurring types sels else []
  | .spread _ => []
  | .guarded flag inverted ⟨_, sels⟩ => (allOccurring types sels).map (·.under ⟨flag, inverted⟩)

/-- The occurrences that collecting for the types meets in selections without spreads, in order. -/
def allOccurring (types : List String) : List Selection → List Occurrence
  | [] => []
  | x :: rest => x.occurring types ++ allOccurring types rest

end

/-- The occurrences that collecting meets in a set for all of its possible types. There are none if spreads cannot be
replaced. -/
def Context.collected (c : Context) (set : SelectionSet) : List Occurrence :=
  match c.mergeSpreads set with
  | .ok merged => allOccurring set.possibleTypes merged.inlineRedundant.selections
  | .error _ => []

/-- The field stands among the selections, in type conditions and guards too, or in a fragment that is spread there. -/
inductive Context.Offers (c : Context) (f : Field) : List Selection → Prop where
  | here {sels : List Selection} : .field f ∈ sels → c.Offers f sels
  | condition {sels : List Selection} {t : NamedType} {set : SelectionSet} :
      .typeCondition t set ∈ sels → c.Offers f set.selections → c.Offers f sels
  | spread {sels : List Selection} {name : String} {fragment : Fragment} :
      .spread name ∈ sels → c.fragments.get? name = some fragment → c.Offers f fragment.set.selections → c.Offers f sels
  | guarded {sels : List Selection} {flag : String} {inverted : Bool} {set : SelectionSet} :
      .guarded flag inverted set ∈ sels → c.Offers f set.selections → c.Offers f sels

/-! ## What collecting meets -/

/-- Collecting puts what occurs, one after another, or fails at a spread. Spreads may be left where the types do not apply. -/
theorem collectAll_cases (types : List String) (sels : List Selection) :
    ∀ (conditional : Bool) (fields : Entries Field),
      collectAll types conditional fields sels = .ok ((allOccurring types sels).foldl (putOccurrence conditional) fields) ∨
        allSpreadNames sels ≠ [] ∧ ∃ e, collectAll types conditional fields sels = .error e := by
  -- what the first selection leaves is gone on from; where it fails, collecting fails
  have hgo : ∀ {x rest conditional fields},
      (∀ fields, collectAll types conditional fields rest =
          .ok ((allOccurring types rest).foldl (putOccurrence conditional) fields) ∨
        allSpreadNames rest ≠ [] ∧ ∃ e, collectAll types conditional fields rest = .error e) →
      (x.collect types conditional fields = .ok ((x.occurring types).foldl (putOccurrence conditional) fields) ∨
        x.spreadNames ≠ [] ∧ ∃ e, x.collect types conditional fields = .error e) →
      (collectAll types conditional fields (x :: rest) =
          .ok ((allOccurring types (x :: rest)).foldl (putOccurrence conditional) fields) ∨
        allSpreadNames (x :: rest) ≠ [] ∧ ∃ e, collectAll types conditional fields (x :: rest) = .error e) := by
    intro x rest conditional fields hrest hx
    rw [allOccurring, List.foldl_append, allSpreadNames, collectAll]
    rcases hx with hx | ⟨hspread, e, hx⟩
    · rw [hx]
      exact (hrest _).imp_right (And.imp_left fun hne => by simp [hne])
    · rw [hx]
      exact Or.inr ⟨by simp [hspread], e, rfl⟩
  induction sels using selections_induction with
  | nil => exact fun _ _ => Or.inl rfl
  | field f rest _ ih =>
    intro conditional fields
    exact hgo (ih conditional) (Or.inl (by simp [Selection.collect, Selection.occurring, putOccurrence]))
  | typeCondition t ts inner rest ihi ih =>
    intro conditional fields
    refine hgo (ih conditional) ?_
    rw [Selection.collect, Selection.occurring]
    split
    · exact ihi conditional fields
    · exact Or.inl rfl
  | spread name rest ih =>
    intro conditional fields
    exact hgo (ih conditional) (Or.inr ⟨by simp [Selection.spreadNames], _, rfl⟩)
  | guarded flag inverted ts inner rest ihi ih =>
    intro conditional fields
    refine hgo (ih conditional) ?_
    rw [Selection.collect, Selection.occurring, List.foldl_map]
    simp only [putOccurrence_under]
    exact ihi true fields

section
variable {c : Context} {set : SelectionSet}

/-- The fields that a set has are those that occur in it, by response key. -/
theorem occurring_of_collectFields {types : List String} {fields : Entries Field} (h : set.collectFields types = .ok fields) :
    fields = grouped (allOccurring types set.selections) := by
  rw [← foldl_putOccurrence]
  rcases collectAll_cases types set.selections false [] with hok | ⟨-, e, herror⟩
  · exact Except.ok.inj (h.symm.trans hok)
  · cases h.symm.trans herror

/-- A set without spreads has the fields that occur in it, by response key. -/
theorem collectFields_occurring (plain : allSpreadNames set.selections = []) (types : List String) :
    set.collectFields types = .ok (grouped (allOccurring types set.selections)) := by
  rw [← foldl_putOccurrence]
  exact (collectAll_cases types set.selections false []).resolve_right fun h => h.1 plain

/-- What all possible types of a set have in common is what is collected, by response key. -/
theorem Context.common_of_collected {cases : RecordCase} (h : c.casesOf set = .ok cases) :
    cases.common.fields = (grouped (c.collected set)).values := by
  obtain ⟨merged, fields, hm, hf, hcommon, -⟩ := casesOf_ok h
  rw [collectFields_occurring (Context.passes_of_mergeSpreads hm).2] at hf
  cases hf
  rw [hcommon, Context.collected, hm]

end

/-! ## What is on offer -/

section
variable {c : Context} {f : Field}

/-- What some of the selections offer, all of them do. -/
theorem Context.Offers.mono {sels more : List Selection} (h : c.Offers f sels) (hsub : sels ⊆ more) : c.Offers f more := by
  cases h with
  | here hf => exact .here (hsub hf)
  | condition hx hin => exact .condition (hsub hx) hin
  | spread hx hfragment hin => exact .spread (hsub hx) hfragment hin
  | guarded hx hin => exact .guarded (hsub hx) hin

theorem Context.offers_append {a b : List Selection} : c.Offers f (a ++ b) ↔ c.Offers f a ∨ c.Offers f b := by
  constructor
  · intro h
    cases h with
    | here hf => exact (List.mem_append.mp hf).imp .here .here
    | condition hx hin => exact (List.mem_append.mp hx).imp (.condition · hin) (.condition · hin)
    | spread hx hfragment hin => exact (List.mem_append.mp hx).imp (.spread · hfragment hin) (.spread · hfragment hin)
    | guarded hx hin => exact (List.mem_append.mp hx).imp (.guarded · hin) (.guarded · hin)
  · rintro (h | h)
    · exact h.mono (List.subset_append_left a b)
    · exact h.mono (List.subset_append_right a b)

theorem Context.offers_cons {x : Selection} {rest : List Selection} :
    c.Offers f (x :: rest) ↔ c.Offers f [x] ∨ c.Offers f rest :=
  Context.offers_append (a := [x])

theorem Context.offers_typeCondition {t : NamedType} {set : SelectionSet} :
    c.Offers f [.typeCondition t set] ↔ c.Offers f set.selections := by
  constructor
  · intro h
    cases h with
    | here hx => cases List.mem_singleton.mp hx
    | condition hx hin =>
      cases List.mem_singleton.mp hx
      exact hin
    | spread hx => cases List.mem_singleton.mp hx
    | guarded hx => cases List.mem_singleton.mp hx
  · exact .condition List.mem_cons_self

theorem Context.offers_guarded {flag : String} {inverted : Bool} {set : SelectionSet} :
    c.Offers f [.guarded flag inverted set] ↔ c.Offers f set.selections := by
  constructor
  · intro h
    cases h with
    | here hx => cases List.mem_singleton.mp hx
    | condition hx => cases List.mem_singleton.mp hx
    | spread hx => cases List.mem_singleton.mp hx
    | guarded hx hin =>
      cases List.mem_singleton.mp hx
      exact hin
  · exact .guarded List.mem_cons_self

/-- What occurs in selections is on offer there. -/
theorem Context.offers_of_occurring {types : List String} (sels : List Selection) :
    ∀ o ∈ allOccurring types sels, c.Offers o.field sels := by
  induction sels using selections_induction with
  | nil => exact fun o ho => absurd ho List.not_mem_nil
  | field g rest _ ih =>
    intro o ho
    rcases List.mem_cons.mp ho with rfl | ho
    · exact .here List.mem_cons_self
    · exact (ih o ho).mono (List.subset_cons_self _ _)
  | typeCondition t ts inner rest ihi ih =>
    intro o ho
    rcases List.mem_append.mp ho with ho | ho
    · rw [Selection.occurring] at ho
      split at ho
      · exact .condition List.mem_cons_self (ihi o ho)
      · cases ho
    · exact (ih o ho).mono (List.subset_cons_self _ _)
  | spread name rest ih => exact fun o ho => (ih o ho).mono (List.subset_cons_self _ _)
  | guarded flag inverted ts inner rest ihi ih =>
    intro o ho
    rcases List.mem_append.mp ho with ho | ho
    · obtain ⟨p, hp, rfl⟩ := List.mem_map.mp ho
      exact .guarded List.mem_cons_self (ihi p hp)
    · exact (ih o ho).mono (List.subset_cons_self _ _)

/-- Splicing in redundant type conditions offers nothing new. -/
theorem Context.offers_of_inlineAll (sels : List Selection) :
    ∀ {possible : List String}, c.Offers f (inlineAll possible sels) → c.Offers f sels := by
  induction sels using selections_induction with
  | nil => exact fun h => h
  | field g rest _ ih =>
    intro possible h
    rw [inlineAll, Selection.inlined, List.singleton_append] at h
    exact Context.offers_cons.mpr ((Context.offers_cons.mp h).imp id ih)
  | typeCondition t ts inner rest ihi ih =>
    intro possible h
    rw [inlineAll, Selection.inlined, Context.offers_append] at h
    refine Context.offers_cons.mpr (h.imp (fun h => Context.offers_typeCondition.mpr ?_) ih)
    split at h
    · exact ihi h
    · exact ihi (Context.offers_typeCondition.mp h)
  | spread name rest ih =>
    intro possible h
    rw [inlineAll, Selection.inlined, List.singleton_append] at h
    exact Context.offers_cons.mpr ((Context.offers_cons.mp h).imp id ih)
  | guarded flag inverted ts inner rest ihi ih =>
    intro possible h
    rw [inlineAll, Selection.inlined, Context.offers_append] at h
    refine Context.offers_cons.mpr (h.imp (fun h => Context.offers_guarded.mpr ?_) ih)
    exact ihi (Context.offers_guarded.mp h)

/-- What a selection can become where spreads are replaced: a spread becomes a type condition with the merged selections of its
fragment, and anything else keeps its form. -/
inductive Context.Merges (c : Context) : Selection → Selection → Prop where
  | field (f : Field) : c.Merges (.field f) (.field f)
  | condition {t : NamedType} {ts : List String} {sels inner : List Selection} {fuel : Nat} :
      Spreads.mergeAll (Spreads.expand c fuel) ts sels = .ok inner →
      c.Merges (.typeCondition t ⟨ts, sels⟩) (.typeCondition t ⟨ts, inner⟩)
  | spread {name : String} {fragment : Fragment} {ts : List String} {inner : List Selection} {fuel : Nat} :
      c.fragments.get? name = some fragment →
      Spreads.mergeAll (Spreads.expand c fuel) ts fragment.set.selections = .ok inner →
      c.Merges (.spread name) (.typeCondition fragment.condition ⟨ts, inner⟩)
  | guarded {flag : String} {inverted : Bool} {ts : List String} {sels inner : List Selection} {fuel : Nat} :
      Spreads.mergeAll (Spreads.expand c fuel) ts sels = .ok inner →
      c.Merges (.guarded flag inverted ⟨ts, sels⟩) (.guarded flag inverted ⟨ts, inner⟩)

/-- A merged selection is what one of the selections has become. -/
theorem Context.merges_of_mem {fuel : Nat} {possible : List String} {sels merged : List Selection}
    (h : Spreads.mergeAll (Spreads.expand c fuel) possible sels = .ok merged) {y : Selection} (hy : y ∈ merged) :
    ∃ x ∈ sels, c.Merges x y := by
  induction sels generalizing merged with
  | nil =>
    cases h
    cases hy
  | cons x rest ih =>
    obtain ⟨first, others, hx, hrest, rfl⟩ := mergeAll_cons_ok h
    rcases List.mem_cons.mp hy with rfl | hy
    · refine ⟨x, List.mem_cons_self, ?_⟩
      cases x with
      | field g =>
        cases hx
        exact .field g
      | typeCondition t set =>
        obtain ⟨inner, hin, rfl⟩ := merge_typeCondition_ok hx
        exact .condition hin
      | spread name =>
        obtain ⟨fewer, fragment, inner, -, hfragment, hin, rfl⟩ := expand_cases hx
        exact .spread hfragment hin
      | guarded flag inverted set =>
        obtain ⟨inner, hin, rfl⟩ := merge_guarded_ok hx
        exact .guarded hin
    · obtain ⟨z, hz, hzy⟩ := ih hrest hy
      exact ⟨z, List.mem_cons_of_mem x hz, hzy⟩

/-- Replacing spreads offers nothing that the selections do not offer with the fragments they spread. -/
theorem Context.offers_of_mergeAll {merged : List Selection} (h : c.Offers f merged) :
    ∀ {fuel : Nat} {possible : List String} {sels : List Selection},
      Spreads.mergeAll (Spreads.expand c fuel) possible sels = .ok merged → c.Offers f sels := by
  induction h with
  | here hf =>
    intro fuel possible sels hm
    obtain ⟨x, hx, hmerges⟩ := Context.merges_of_mem hm hf
    cases hmerges
    exact .here hx
  | condition hy _ ih =>
    intro fuel possible sels hm
    obtain ⟨x, hx, hmerges⟩ := Context.merges_of_mem hm hy
    cases hmerges with
    | condition hin => exact .condition hx (ih hin)
    | spread hfragment hin => exact .spread hx hfragment (ih hin)
  | spread hy _ _ _ =>
    -- no selection becomes a spread
    intro fuel possible sels hm
    obtain ⟨x, hx, hmerges⟩ := Context.merges_of_mem hm hy
    cases hmerges
  | guarded hy _ ih =>
    intro fuel possible sels hm
    obtain ⟨x, hx, hmerges⟩ := Context.merges_of_mem hm hy
    cases hmerges with
    | guarded hin => exact .guarded hx (ih hin)

/-- What is collected from a set is on offer there. -/
theorem Context.offers_of_collected {set : SelectionSet} {o : Occurrence} (h : o ∈ c.collected set) :
    c.Offers o.field set.selections := by
  unfold Context.collected at h
  split at h
  · rename_i merged hm
    obtain ⟨sels, hsels, hm⟩ := bind_eq_ok.mp hm
    cases pure_eq_ok.mp hm
    have hspliced := Context.offers_of_occurring (c := c) _ o h
    exact Context.offers_of_mergeAll (Context.offers_of_inlineAll sels hspliced) hsels
  · cases h

end

end TypedOperations
