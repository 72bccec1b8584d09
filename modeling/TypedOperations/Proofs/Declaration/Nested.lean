import TypedOperations.Proofs.Declaration.Faults
import TypedOperations.Proofs.Declaration.References
import TypedOperations.Proofs.Selection.Collecting

/-!
# Sets of nested classes

The class of a set has a class nested in it for every type condition and for every composite field that all possible types
have. The sets of these classes need not stand anywhere in the outer set: conditions on one type are joined, with their guards
around them again, and so are the sub-selections of all occurrences of a field, from whatever fragments they come. Still they
are put together from sets that do stand there (`Context.Nests.keeps`). Making a class calls itself for these sets and for no
others, so what is known of them says what making the class does with fewer or more steps (`Context.recordClass_congr`), and
which faults it has (`Context.recordClass_failsOnly`).
-/

namespace TypedOperations

/-- The class of the outer set has a class of the inner set nested in it. -/
inductive Context.Nests (c : Context) (outer : SelectionSet) : SelectionSet → Prop where
  | condition {name : String} {t : TypeCondition} : (name, t) ∈ typeConditions outer.selections → c.Nests outer t.set
  | field {cases : RecordCase} {f : Field} {sub : SelectionSet} :
      c.casesOf outer = .ok cases → f ∈ ownFields cases.common.fields → f.type.base.kind.isComposite = true →
      f.selectionSet = some sub → c.Nests outer sub

/-! ## What nested sets are put together from -/

section
variable {P : List Selection → Prop} (append : ∀ a b, P a → P b → P (a ++ b))
include append

/-- What holds of sets holds of their concatenation. -/
theorem concatenated_keeps {sets : List SelectionSet} {merged : SelectionSet} (h : ∀ set ∈ sets, P set.selections)
    (hmerged : concatenated sets = some merged) : P merged.selections := by
  have hall : ∀ (set : SelectionSet) (rest : List SelectionSet), P set.selections → (∀ s ∈ rest, P s.selections) →
      P ((set :: rest).flatMap (·.selections)) := by
    intro set rest
    induction rest generalizing set with
    | nil => simp
    | cons next rest ih =>
      intro hset hrest
      rw [List.flatMap_cons]
      exact append _ _ hset (ih next (hrest next List.mem_cons_self) fun s hs => hrest s (List.mem_cons_of_mem _ hs))
  cases sets with
  | nil => cases hmerged
  | cons set rest =>
    cases hmerged
    exact hall set rest (h set List.mem_cons_self) fun s hs => h s (List.mem_cons_of_mem _ hs)

/-- What holds of conditions holds of those that are joined from them. -/
theorem insertAll_keeps (ts : List TypeCondition) {entries : Entries TypeCondition} (h : ∀ e ∈ entries, P e.2.set.selections)
    (hts : ∀ t ∈ ts, P t.set.selections) : ∀ e ∈ ts.foldl TypeCondition.insert entries, P e.2.set.selections := by
  induction ts generalizing entries with
  | nil => exact h
  | cons t rest ih =>
    refine ih (fun e he => ?_) fun u hu => hts u (List.mem_cons_of_mem t hu)
    have ht := hts t List.mem_cons_self
    unfold TypeCondition.insert at he
    split at he
    · rcases Entries.mem_put he with he | rfl
      · exact h e he
      · exact ht
    · rename_i existing hexisting
      rcases Entries.mem_put he with he | rfl
      · exact h e he
      · exact append _ _ (h _ (Entries.mem_of_get? hexisting)) ht

variable (guarded : ∀ flag inverted (set : SelectionSet), P set.selections → P [.guarded flag inverted set])
include guarded

/-- What holds of the sets of type conditions, and of a guard around a set, holds of the conditions by type. -/
theorem conditionsFrom_keeps (sels : List Selection) :
    ∀ {entries : Entries TypeCondition}, (∀ e ∈ entries, P e.2.set.selections) →
      (∀ t set, .typeCondition t set ∈ allUnguarded sels → P set.selections) →
        ∀ e ∈ conditionsFrom entries sels, P e.2.set.selections := by
  induction sels using selections_induction with
  | nil => exact fun h _ => h
  | field f rest _ ih => exact fun h hsets => ih h fun t set ht => hsets t set (List.mem_cons_of_mem _ ht)
  | typeCondition t ts inner rest _ ih =>
    intro entries h hsets
    refine ih (insertAll_keeps append [⟨t, ⟨ts, inner⟩⟩] h fun u hu => ?_) fun t set ht =>
      hsets t set (List.mem_cons_of_mem _ ht)
    cases List.mem_singleton.mp hu
    exact hsets t ⟨ts, inner⟩ List.mem_cons_self
  | spread name rest ih => exact fun h hsets => ih h fun t set ht => hsets t set (List.mem_cons_of_mem _ ht)
  | guarded flag inverted ts inner rest ihi ih =>
    intro entries h hsets
    refine ih (insertAll_keeps append _ h fun u hu => ?_) fun t set ht => hsets t set (List.mem_append_right _ ht)
    obtain ⟨v, hv, rfl⟩ := List.mem_map.mp hu
    obtain ⟨e, he, rfl⟩ := List.mem_map.mp hv
    have hinner := ihi (fun e he => absurd he List.not_mem_nil) fun t set ht => hsets t set (List.mem_append_left _ ht)
    exact guarded flag inverted e.2.set (hinner e he)

/-- The set of a nested class is put together from sets of type conditions and from sub-selections of fields on offer, with
guards around them again. -/
theorem Context.Nests.keeps {c : Context} {outer inner : SelectionSet}
    (hcondition : ∀ t set, .typeCondition t set ∈ allUnguarded outer.selections → P set.selections)
    (hfield : ∀ f sub, c.Offers f outer.selections → f.selectionSet = some sub → P sub.selections)
    (h : c.Nests outer inner) : P inner.selections := by
  cases h with
  | condition ht =>
    have hkeeps := conditionsFrom_keeps append guarded outer.selections (fun e he => absurd he List.not_mem_nil) hcondition
    exact hkeeps _ ht
  | @field cases f sub hcases hf _ hsub =>
    have hcommon := (List.mem_filter.mp hf).1
    rw [Context.common_of_collected hcases] at hcommon
    obtain ⟨first, more, hw, hm⟩ := mergedWith_of_mem_grouped hcommon
    rw [hm, Occurrence.mergedWith] at hsub
    refine concatenated_keeps append (fun set hset => ?_) hsub
    obtain ⟨o, ho, hoset⟩ := Occurrence.mem_subsets.mp hset
    rw [← hw] at ho
    exact hfield o.field set (Context.offers_of_collected (Occurrence.mem_withKey.mp ho).1) hoset

end

/-! ## Making a class calls itself for nested sets -/

section
variable {c : Context} {set : SelectionSet} {scope : List String} {role : RecordRole} {name : String}

/-- The property of a composite field that all types have belongs to a nested set, if the field has sub-selections. -/
theorem Context.nests_of_property {cases : RecordCase} {s : RecordScope} {properties : List Property}
    (hcases : c.casesOf set = .ok cases) (hp : (ownFields cases.common.fields).mapM s.property = .ok properties)
    {p : Property} (hmem : p ∈ properties.filter (·.isComposite)) :
    ∃ f ∈ ownFields cases.common.fields, f.type.base.kind.isComposite = true ∧ p.selectionSet = f.selectionSet ∧
      ∀ sub, p.selectionSet = some sub → c.Nests set sub := by
  obtain ⟨hmem, hcomposite⟩ := List.mem_filter.mp hmem
  obtain ⟨f, hf, hproperty⟩ := mem_of_mapM hp hmem
  obtain ⟨-, hset, hcomp⟩ := Options.fieldProperty_ok hproperty
  have hfc : f.type.base.kind.isComposite = true := hcomp.symm.trans hcomposite
  exact ⟨f, hf, hfc, hset, fun sub hsub => .field hcases hf hfc (hset.symm.trans hsub)⟩

/-- A class is the same with other numbers of steps if the classes of all nested sets are. -/
theorem Context.recordClass_congr {fuel fuel' : Nat}
    (h : ∀ inner, c.Nests set inner → ∀ path name,
      c.recordClass fuel path {} name inner = c.recordClass fuel' path {} name inner) :
    c.recordClass (fuel + 1) scope role name set = c.recordClass (fuel' + 1) scope role name set := by
  rw [Context.recordClass, Context.recordClass]
  refine bind_congr_ok fun merged hm => bind_congr_ok fun cases hc => bind_congr_ok fun fragments _ =>
    bind_congr_ok fun properties hp => bind_congr_ok fun _ _ => bind_congr_ok fun _ _ => bind_congr_ok fun _ _ => ?_
  have hcases : c.casesOf set = .ok cases := bind_eq_ok.mpr ⟨merged, hm, hc⟩
  refine congr (congrArg bind (mapM_congr_mem fun e he => ?_)) (funext fun _ => ?_)
  · exact h e.2.set (.condition he) _ _
  · refine congrFun (congrArg bind (mapM_congr_mem fun p hmem => ?_)) _
    obtain ⟨f, -, -, -, hnests⟩ := Context.nests_of_property hcases hp hmem
    split
    · rename_i sub hsub
      exact h sub (hnests sub hsub) _ _
    · rfl

/-- The descriptors of selections have the faults of referring to the classes of fields, and faults of what the module is
generated from. -/
theorem descriptorsOf_failsOnly {P : Fault → Prop} (plain : ∀ e, e.isPlain = true → P e) {o : Options}
    {classes : Entries String} (sels : List Selection) :
    (∀ f, .field f ∈ allUnguarded sels → FailsOnly P (recordReference f classes)) →
      FailsOnly P (descriptorsOf o classes sels) := by
  have hcons : ∀ {x rest}, FailsOnly P (x.descriptor o classes) → FailsOnly P (descriptorsOf o classes rest) →
      FailsOnly P (descriptorsOf o classes (x :: rest)) := by
    intro x rest hx hrest
    rw [descriptorsOf]
    exact hx.bind fun _ _ => hrest.bind fun _ _ => failsOnly_ok _
  induction sels using selections_induction with
  | nil => exact fun _ => failsOnly_ok []
  | field f rest _ ih =>
    intro h
    refine hcons ?_ (ih fun g hg => h g (List.mem_cons_of_mem _ hg))
    have houtput : ∀ record, FailsOnly P (o.outputExpression record f.type) :=
      fun record => (failsPlainly_outputExpression o record f.type).mono plain
    rw [Selection.descriptor, fieldDescriptor]
    refine (h f List.mem_cons_self).bind fun record _ => ?_
    dsimp only
    split
    · exact (houtput record).bind fun _ _ => failsOnly_ok _
    · exact ((failsPlainly_argumentsExpression f.arguments).mono plain).map.bind fun _ _ =>
        (houtput record).bind fun _ _ => failsOnly_ok _
  | typeCondition t ts inner rest _ ih =>
    exact fun h => hcons (failsOnly_ok _) (ih fun g hg => h g (List.mem_cons_of_mem _ hg))
  | spread fragment rest ih =>
    exact fun h => hcons (failsOnly_ok _) (ih fun g hg => h g (List.mem_cons_of_mem _ hg))
  | guarded flag inverted ts inner rest ihi ih =>
    intro h
    refine hcons ?_ (ih fun g hg => h g (List.mem_append_right _ hg))
    rw [Selection.descriptor]
    exact (ihi fun g hg => h g (List.mem_append_left _ hg)).bind fun _ _ => failsOnly_ok _

/-- The faults of making a class, beside those that lie in what the module is generated from: those of its record case, those of
referring to the classes of fields, want of a selection set, and the faults of classes of nested sets. -/
theorem Context.recordClass_failsOnly {P : Fault → Prop} (plain : ∀ e, e.isPlain = true → P e) {fuel : Nat}
    (hcases : FailsOnly P (c.casesOf set))
    (hreference : ∀ cases fragments path f, c.casesOf set = .ok cases → .field f ∈ allUnguarded set.selections →
      FailsOnly P (recordReference f (c.scopeOf path set cases fragments).classes))
    (hselected : ∀ cases, c.casesOf set = .ok cases → ∀ f ∈ ownFields cases.common.fields,
      f.type.base.kind.isComposite = true → f.selectionSet = none → ∀ key className, P (.noSelectionSet key className))
    (hnested : ∀ inner, c.Nests set inner → ∀ path name, FailsOnly P (c.recordClass fuel path {} name inner)) :
    FailsOnly P (c.recordClass (fuel + 1) scope role name set) := by
  have hmerge : FailsOnly P (c.mergeSpreads set) := fun e he => hcases e (bind_eq_error.mpr (.inl he))
  rw [Context.recordClass]
  refine hmerge.bind fun merged hm => ?_
  have hof : FailsOnly P (RecordCase.ofSet merged.inlineRedundant) :=
    fun e he => hcases e (bind_eq_error.mpr (.inr ⟨merged, hm, he⟩))
  refine hof.bind fun cases hc => ?_
  have hcasesOf : c.casesOf set = .ok cases := bind_eq_ok.mpr ⟨merged, hm, hc⟩
  refine ((failsPlainly_fragmentProperties c set set.selections []).mono plain).bind fun fragments _ => ?_
  refine (FailsOnly.mapM fun f _ => (RecordScope.failsPlainly_property _ f).mono plain).bind fun properties hp => ?_
  refine (descriptorsOf_failsOnly plain set.selections fun f hf =>
    hreference cases fragments (scope ++ [name]) f hcasesOf hf).bind fun _ _ => ?_
  refine ((RecordScope.failsPlainly_factories _ cases).mono plain).bind fun _ _ => ?_
  refine (FailsOnly.mapM fun p _ => (failsPlainly_fieldAccessor c.options p).mono plain).bind fun _ _ => ?_
  refine (FailsOnly.mapM fun e he => hnested e.2.set (.condition he) _ _).bind fun _ _ => ?_
  refine (FailsOnly.mapM fun p hmem => ?_).bind fun _ _ => failsOnly_ok _
  obtain ⟨f, hf, hcomposite, hset, hnests⟩ := Context.nests_of_property hcasesOf hp hmem
  split
  · rename_i sub hsub
    exact hnested sub (hnests sub hsub) _ _
  · rename_i hnone
    intro e he
    cases he
    exact hselected cases hcasesOf f hf hcomposite (hset.symm.trans hnone) _ _

end

end TypedOperations
