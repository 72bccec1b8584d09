import TypedOperations.Proofs.Declaration.Termination
import TypedOperations.Proofs.Selection.Fields

/-!
# Internal faults cannot be reached

The descriptors of a class are written from the selections as they stand, while its nested classes are declared for the fields
that are collected after spreads were replaced and repeated fields merged, in sets that earlier merges may have put together.
Both sides meet again: a field that a descriptor is written for is collected (`Context.collected_of_unguarded`), so its key has
a class as soon as the fields that are collected under one key agree on whether they are composite. And whatever is collected,
at any depth, stands somewhere in the context (`Context.Classed.fields_subset`), so the merged field has a selection set if
every composite field of the context has one.
-/

namespace TypedOperations

/-- The fields in the operations and fragments of a context, at any depth. -/
def Context.allFields (c : Context) : List Field :=
  c.sets.flatMap fun set => TypedOperations.allFields set.selections

/-- The sets that classes are made for: those of operations and fragments, and those of nested classes. -/
inductive Context.Classed (c : Context) : SelectionSet → Prop where
  | top {set : SelectionSet} : set ∈ c.sets → c.Classed set
  | nested {outer inner : SelectionSet} : c.Classed outer → c.Nests outer inner → c.Classed inner

/-! ## Where fields come from -/

section
variable {c : Context}

theorem Context.allFields_subset {set : SelectionSet} (h : set ∈ c.sets) :
    TypedOperations.allFields set.selections ⊆ c.allFields :=
  fun _ hf => List.mem_flatMap.mpr ⟨set, h, hf⟩

/-- A field on offer in selections of the context is one of the context, with everything in it. -/
theorem Context.Offers.fields_subset {f : Field} {sels : List Selection} (h : c.Offers f sels) :
    TypedOperations.allFields sels ⊆ c.allFields → (Selection.field f).fields ⊆ c.allFields := by
  induction h with
  | here hf => exact fun hsels => List.Subset.trans (fields_subset_of_mem hf) hsels
  | condition hx _ ih => exact fun hsels => ih (List.Subset.trans (fields_subset_of_mem hx) hsels)
  | spread _ hfragment _ ih => exact fun _ => ih (Context.allFields_subset (Context.mem_sets_of_get? hfragment))
  | guarded hx _ ih => exact fun hsels => ih (List.Subset.trans (fields_subset_of_mem hx) hsels)

/-- The fields in a set that a class is made for are fields of the context. -/
theorem Context.Classed.fields_subset {set : SelectionSet} (h : c.Classed set) :
    TypedOperations.allFields set.selections ⊆ c.allFields := by
  induction h with
  | top hset => exact Context.allFields_subset hset
  | @nested outer inner _ hnests ih =>
    refine hnests.keeps (P := fun sels => TypedOperations.allFields sels ⊆ c.allFields) ?_ ?_ ?_ ?_
    · intro a b ha hb
      rw [allFields_append]
      exact List.append_subset.mpr ⟨ha, hb⟩
    · intro flag inverted set hset
      rw [TypedOperations.allFields, TypedOperations.allFields, Selection.fields, List.append_nil]
      exact hset
    · intro t set hset
      exact unguarded_keeps (P := fun x => x.fields ⊆ c.allFields)
        (fun _ _ _ hguarded _ hx => List.Subset.trans (fields_subset_of_mem hx) hguarded) outer.selections
        (fun _ hx => List.Subset.trans (fields_subset_of_mem hx) ih) _ hset
    · intro f sub hoffers hsub
      exact List.Subset.trans (allFields_subset_fields hsub) (hoffers.fields_subset ih)

/-- What is collected from a set that a class is made for is a field of the context. -/
theorem Context.Classed.mem_of_collected {set : SelectionSet} (h : c.Classed set) {o : Occurrence}
    (ho : o ∈ c.collected set) : o.field ∈ c.allFields :=
  (Context.offers_of_collected ho).fields_subset h.fields_subset (mem_fields_self o.field)

end

/-! ## What descriptors are written for is collected -/

section
variable {f : Field}

theorem allUnguarded_append (a b : List Selection) : allUnguarded (a ++ b) = allUnguarded a ++ allUnguarded b := by
  induction a with
  | nil => rfl
  | cons x rest ih => rw [List.cons_append, allUnguarded, allUnguarded, ih, List.append_assoc]

/-- Replacing spreads leaves the fields that stand directly or in guards. -/
theorem unguarded_mergeAll {expand : List String → String → Except Fault Selection} (sels : List Selection) :
    ∀ {possible : List String} {merged : List Selection}, Spreads.mergeAll expand possible sels = .ok merged →
      .field f ∈ allUnguarded sels → .field f ∈ allUnguarded merged := by
  induction sels using selections_induction with
  | nil =>
    intro possible merged _ hf
    cases hf
  | field g rest _ ih =>
    intro possible merged hm hf
    obtain ⟨_, others, hx, hrest, rfl⟩ := mergeAll_cons_ok hm
    cases hx
    rcases List.mem_cons.mp hf with hf | hf
    · exact List.mem_cons.mpr (Or.inl hf)
    · exact List.mem_cons_of_mem _ (ih hrest hf)
  | typeCondition t ts inner rest _ ih =>
    intro possible merged hm hf
    obtain ⟨_, others, -, hrest, rfl⟩ := mergeAll_cons_ok hm
    exact List.mem_append_right _ (ih hrest (List.mem_of_ne_of_mem (by simp) hf))
  | spread name rest ih =>
    intro possible merged hm hf
    obtain ⟨_, others, -, hrest, rfl⟩ := mergeAll_cons_ok hm
    exact List.mem_append_right _ (ih hrest (List.mem_of_ne_of_mem (by simp) hf))
  | guarded flag inverted ts inner rest ihi ih =>
    intro possible merged hm hf
    obtain ⟨_, others, hx, hrest, rfl⟩ := mergeAll_cons_ok hm
    obtain ⟨inside, hin, rfl⟩ := merge_guarded_ok hx
    rcases List.mem_append.mp hf with hf | hf
    · exact List.mem_append_left _ (ihi hin hf)
    · exact List.mem_append_right _ (ih hrest hf)

/-- Splicing in redundant type conditions leaves the fields that stand directly or in guards. -/
theorem unguarded_inlineAll (sels : List Selection) :
    ∀ {possible : List String}, .field f ∈ allUnguarded sels → .field f ∈ allUnguarded (inlineAll possible sels) := by
  induction sels using selections_induction with
  | nil => exact fun hf => absurd hf List.not_mem_nil
  | field g rest _ ih =>
    intro possible hf
    rw [inlineAll, allUnguarded_append]
    rcases List.mem_cons.mp hf with hf | hf
    · exact List.mem_append_left _ (List.mem_cons.mpr (Or.inl hf))
    · exact List.mem_append_right _ (ih hf)
  | typeCondition t ts inner rest _ ih =>
    intro possible hf
    rw [inlineAll, allUnguarded_append]
    exact List.mem_append_right _ (ih (List.mem_of_ne_of_mem (by simp) hf))
  | spread name rest ih =>
    intro possible hf
    rw [inlineAll, allUnguarded_append]
    exact List.mem_append_right _ (ih (List.mem_of_ne_of_mem (by simp) hf))
  | guarded flag inverted ts inner rest ihi ih =>
    intro possible hf
    rw [inlineAll, allUnguarded_append]
    rcases List.mem_append.mp hf with hf | hf
    · exact List.mem_append_left _ (List.mem_append_left _ (ihi hf))
    · exact List.mem_append_right _ (ih hf)

/-- A field that stands directly or in guards occurs, whatever the types are. -/
theorem occurring_of_unguarded {types : List String} (sels : List Selection) :
    .field f ∈ allUnguarded sels → ∃ o ∈ allOccurring types sels, o.field = f := by
  induction sels using selections_induction with
  | nil => exact fun hf => absurd hf List.not_mem_nil
  | field g rest _ ih =>
    intro hf
    rcases List.mem_cons.mp hf with hf | hf
    · cases hf
      exact ⟨⟨f, []⟩, List.mem_cons_self, rfl⟩
    · obtain ⟨o, ho, hof⟩ := ih hf
      exact ⟨o, List.mem_cons_of_mem _ ho, hof⟩
  | typeCondition t ts inner rest _ ih =>
    intro hf
    obtain ⟨o, ho, hof⟩ := ih (List.mem_of_ne_of_mem (by simp) hf)
    exact ⟨o, List.mem_append_right _ ho, hof⟩
  | spread name rest ih => exact fun hf => ih (List.mem_of_ne_of_mem (by simp) hf)
  | guarded flag inverted ts inner rest ihi ih =>
    intro hf
    rcases List.mem_append.mp hf with hf | hf
    · obtain ⟨o, ho, hof⟩ := ihi hf
      exact ⟨o.under ⟨flag, inverted⟩, List.mem_append_left _ (List.mem_map_of_mem ho), hof⟩
    · obtain ⟨o, ho, hof⟩ := ih hf
      exact ⟨o, List.mem_append_right _ ho, hof⟩

variable {c : Context} {set : SelectionSet} {cases : RecordCase}

/-- A field that stands directly in a set or in guards is collected. -/
theorem Context.collected_of_unguarded (hcases : c.casesOf set = .ok cases) (hf : .field f ∈ allUnguarded set.selections) :
    ∃ o ∈ c.collected set, o.field = f := by
  obtain ⟨merged, hm, -⟩ := bind_eq_ok.mp hcases
  rw [Context.collected, hm]
  obtain ⟨sels, hsels, hm⟩ := bind_eq_ok.mp hm
  cases pure_eq_ok.mp hm
  exact occurring_of_unguarded _ (unguarded_inlineAll sels (unguarded_mergeAll set.selections hsels hf))

/-! ## The faults of one class -/

/-- The fields that are collected from the set under one key agree on whether they are composite. -/
def Context.Agrees (c : Context) (set : SelectionSet) : Prop :=
  ∀ o ∈ c.collected set, ∀ p ∈ c.collected set, o.key = p.key →
    o.field.type.base.kind.isComposite = p.field.type.base.kind.isComposite

/-- The merged field of a key is as composite as every field that is collected under the key. -/
theorem Context.Agrees.composite (agrees : c.Agrees set) {o : Occurrence} (ho : o ∈ c.collected set)
    (hcases : c.casesOf set = .ok cases) :
    ∃ g ∈ cases.common.fields, g.responseKey = o.key ∧
      g.type.base.kind.isComposite = o.field.type.base.kind.isComposite := by
  rw [Context.common_of_collected hcases]
  obtain ⟨e, he, hname⟩ := List.mem_map.mp (mem_grouped_names.mpr ⟨o, ho, rfl⟩)
  obtain ⟨first, more, hw, hm⟩ := mem_grouped he
  have hfirst : first ∈ Occurrence.withKey e.1 (c.collected set) := hw ▸ List.mem_cons_self
  obtain ⟨hmem, hkey⟩ := Occurrence.mem_withKey.mp hfirst
  refine ⟨e.2, List.mem_map_of_mem he, (responseKey_of_mem_grouped he).trans hname, ?_⟩
  rw [hm]
  exact agrees first hmem o ho (hkey.trans hname)

/-- Where the fields under one key agree, every composite field that a descriptor is written for has a class to refer to. -/
theorem Context.recordReference_ok (agrees : c.Agrees set) (hcases : c.casesOf set = .ok cases)
    (hf : .field f ∈ allUnguarded set.selections) (fragments : Entries Property) (path : List String) :
    ∃ reference, recordReference f (c.scopeOf path set cases fragments).classes = .ok reference := by
  unfold recordReference
  split
  · rename_i hcomposite
    obtain ⟨o, ho, rfl⟩ := Context.collected_of_unguarded hcases hf
    obtain ⟨g, hg, hkey, hsame⟩ := agrees.composite ho hcases
    obtain ⟨avoided, hclass⟩ := Context.class_of_common c path set fragments hg (hsame.trans hcomposite)
    rw [hkey] at hclass
    have hget : (c.scopeOf path set cases fragments).classes.get? o.field.responseKey =
        some (Naming.fresh (Naming.recordClass o.key) avoided) := hclass
    rw [hget]
    exact ⟨_, rfl⟩
  · exact ⟨"None", rfl⟩

/-- Where every composite field of the context has a selection set, so has every merged one. -/
theorem Context.Classed.selected (classed : c.Classed set)
    (selected : ∀ f ∈ c.allFields, f.type.base.kind.isComposite = true → f.selectionSet.isSome = true)
    (hcases : c.casesOf set = .ok cases) (hf : f ∈ cases.common.fields) (hcomposite : f.type.base.kind.isComposite = true) :
    f.selectionSet.isSome = true := by
  rw [Context.common_of_collected hcases] at hf
  obtain ⟨first, more, hw, hm⟩ := mergedWith_of_mem_grouped hf
  have hfirst : first ∈ c.collected set :=
    (Occurrence.mem_withKey.mp (hw ▸ List.mem_cons_self : first ∈ Occurrence.withKey f.responseKey _)).1
  have hsome : first.field.selectionSet.isSome = true := by
    rw [hm] at hcomposite
    exact selected first.field (classed.mem_of_collected hfirst) hcomposite
  obtain ⟨sub, hsub⟩ := Option.isSome_iff_exists.mp hsome
  rw [hm, Occurrence.mergedWith]
  simp [Occurrence.subsets, hsub, concatenated]

/-- Replacing spreads has no internal faults, with any number of steps. -/
theorem expand_not_internal (c : Context) (fuel : Nat) :
    ∀ possible name, FailsOnly (fun e => e.isInternal = false) (Spreads.expand c fuel possible name) := by
  induction fuel with
  | zero =>
    intro possible name e he
    cases he
    rfl
  | succ fuel ih =>
    intro possible name
    rw [Spreads.expand]
    refine ((failsPlainly_fragment c name).mono fun _ => Fault.not_internal_of_plain).bind fun f _ => ?_
    exact (mergeAll_failsOnly f.set.selections _ fun b _ ts => ih ts b).bind fun _ _ => failsOnly_ok _

/-- Making a record case has no internal faults: no spread is left when fields are collected. -/
theorem Context.casesOf_not_internal (c : Context) (set : SelectionSet) :
    FailsOnly (fun e => e.isInternal = false) (c.casesOf set) := by
  have hmerge : FailsOnly (fun e => e.isInternal = false) (c.mergeSpreads set) :=
    (mergeAll_failsOnly set.selections set.possibleTypes fun name _ ts => expand_not_internal c _ ts name).bind
      fun _ _ => failsOnly_ok _
  refine hmerge.bind fun merged hm => ?_
  obtain ⟨cases, hcases, -⟩ := recordsOf_ofSet (Context.passes_of_mergeSpreads hm).2
  rw [hcases]
  exact failsOnly_ok cases

/-- Making the classes of a set has no internal faults, with any number of steps. -/
theorem Context.recordClass_not_internal
    (selected : ∀ f ∈ c.allFields, f.type.base.kind.isComposite = true → f.selectionSet.isSome = true)
    (agree : ∀ set, c.Classed set → c.Agrees set) (fuel : Nat) :
    ∀ {set : SelectionSet}, c.Classed set → ∀ scope role name,
      FailsOnly (fun e => e.isInternal = false) (c.recordClass fuel scope role name set) := by
  induction fuel with
  | zero =>
    intro set _ scope role name e he
    cases he
    rfl
  | succ fuel ih =>
    intro set classed scope role name
    refine Context.recordClass_failsOnly (fun _ => Fault.not_internal_of_plain) (c.casesOf_not_internal set) ?_ ?_ ?_
    · intro cases fragments path f hcases hf
      obtain ⟨reference, hreference⟩ := Context.recordReference_ok (agree set classed) hcases hf fragments path
      rw [hreference]
      exact failsOnly_ok reference
    · intro cases hcases f hf hcomposite hnone
      have hsome := classed.selected selected hcases (List.mem_filter.mp hf).1 hcomposite
      rw [hnone] at hsome
      cases hsome
    · exact fun inner hnests path name => ih (classed.nested hnests) path {} name

end

/-- Internal faults cannot be reached. Take a context in which every composite field, at any depth, has a selection set, and in
which the fields that are collected under one response key, from any set that a class is made for, agree on whether they are
composite. Then no class of an operation or fragment fails with an internal fault, with any number of steps, and neither do
the declarations. If references are acyclic, the declarations do not fail with a cycle either. -/
theorem internal_faults_unreachable (c : Context)
    (selected : ∀ f ∈ c.allFields, f.type.base.kind.isComposite = true → f.selectionSet.isSome = true)
    (agree : ∀ set, c.Classed set → c.Agrees set) :
    (∀ set ∈ c.sets, ∀ fuel scope role name e, c.recordClass fuel scope role name set = .error e → e.isInternal = false) ∧
      ∀ e, c.declarations = .error e → e.isInternal = false ∧ (c.ReferencesAcyclic → e.isCycle = false) := by
  have hclass : ∀ set ∈ c.sets, ∀ fuel scope role name,
      FailsOnly (fun e => e.isInternal = false) (c.recordClass fuel scope role name set) :=
    fun set hset fuel => Context.recordClass_not_internal selected agree fuel (.top hset)
  refine ⟨hclass, fun e he => ⟨?_, fun acyclic => ?_⟩⟩
  · exact Context.declarations_failsOnly (fun _ => Fault.not_internal_of_plain) (fun set hset => hclass set hset _) e he
  · refine Context.declarations_failsOnly (fun _ => Fault.not_cycle_of_plain) (fun set hset => ?_) e he
    exact Context.recordClass_not_cycle acyclic _ (c.nesting_lt_depthBound hset)

theorem internal_faults_unreachable_family :
    (∀ f ∈ familyContext.allFields, f.type.base.kind.isComposite = true → f.selectionSet.isSome = true) ∧
      (∀ set, familyContext.Classed set → familyContext.Agrees set) ∧ familyContext.ReferencesAcyclic ∧
      ∀ e, familyContext.declarations = .error e → e.isInternal = false ∧ e.isCycle = false := by
  have selected : ∀ f ∈ familyContext.allFields, f.type.base.kind.isComposite = true → f.selectionSet.isSome = true := by
    decide
  have agree : ∀ set, familyContext.Classed set → familyContext.Agrees set := by
    intro set classed o ho p hp hkey
    have hall : ∀ f ∈ familyContext.allFields, ∀ g ∈ familyContext.allFields, f.responseKey = g.responseKey →
        f.type.base.kind.isComposite = g.type.base.kind.isComposite := by decide
    exact hall o.field (classed.mem_of_collected ho) p.field (classed.mem_of_collected hp) hkey
  have acyclic := familyContext_referencesAcyclic
  refine ⟨selected, agree, acyclic, fun e he => ?_⟩
  obtain ⟨hinternal, hcycle⟩ := (internal_faults_unreachable familyContext selected agree).2 e he
  exact ⟨hinternal, hcycle acyclic⟩

end TypedOperations
