import TypedOperations.Proofs.Declaration.Properties
import TypedOperations.Proofs.Selection.Describing

/-!
# Views of a response

The class of a selection set reads a response through several others: one for every type condition in the set, and one for
every fragment spread in it, each with such classes of its own. All of them read the same record by its keys. A class is made
from the fields that its own possible types have in common, from selections that were regrouped by type and put inside guards
again; still, whatever it takes for granted is in the response of every object type it is offered for. What carries this over
from a class to the next is that executing the set of a view meets nothing that executing the set itself does not meet
(`ViewOf`).
-/

namespace TypedOperations

/-- The sets whose classes read a response of the object type, starting with the class of `set`: those of type conditions and
of fragments that the object type can have. -/
inductive Context.Views (c : Context) (type : String) (set : SelectionSet) : SelectionSet → Prop where
  | self : c.Views type set set
  | condition {view : SelectionSet} {name : String} {condition : TypeCondition} :
      c.Views type set view → (name, condition) ∈ typeConditions view.selections →
      type ∈ condition.set.possibleTypes → c.Views type set condition.set
  | fragment {view : SelectionSet} {properties : Entries Property} {name : String} {f : Fragment} :
      c.Views type set view → c.fragmentProperties view [] view.selections = .ok properties →
      properties.has name = true → c.fragments.get? name = some f → type ∈ f.possibleTypes → c.Views type set f.set

/-! ## Type conditions by type -/

/-- A type condition made from selections over the types `possible`: its set has the possible types that the schema gives it,
fits the schema, spreads nothing that the selections do not spread, and a walk meets nothing in it that it does not meet in
the selections. -/
structure ConditionOf (c : Context) (s : Schema) (possible : List String) (sels : List Selection) (t : TypeCondition) :
    Prop where
  types : t.set.possibleTypes = possible.filter (s.possibleTypes t.type.name).contains
  fits : AllFit s t.set.possibleTypes t.set.selections
  spreads : allSpreadNames t.set.selections ⊆ allSpreadNames sels
  met : ∀ {v os inner}, v.types ⊆ t.set.possibleTypes → c.Walks v sels os → c.Walks v t.set.selections inner → inner ⊆ os

section
variable {c : Context} {s : Schema} {possible : List String} {sels : List Selection}

/-- What is made from one selection of a list is made from the list. -/
theorem ConditionOf.of_mem {x : Selection} {t : TypeCondition} (hx : x ∈ sels) (h : ConditionOf c s possible [x] t) :
    ConditionOf c s possible sels t := by
  refine ⟨h.types, h.fits, ?_, ?_⟩
  · obtain ⟨before, after, rfl⟩ := List.append_of_mem hx
    intro name hn
    have hn := h.spreads hn
    simp only [allSpreadNames, List.append_nil] at hn
    simp [allSpreadNames_append, allSpreadNames, hn]
  · intro v os inner ht hos hinner o ho
    obtain ⟨before, after, rfl⟩ := List.append_of_mem hx
    obtain ⟨first, others, rfl, -, hrest⟩ := hos.unappend
    obtain ⟨middle, last, rfl, hm, -⟩ := hrest.uncons
    exact List.mem_append_right _ (List.mem_append_left _ (h.met ht hm hinner ho))

/-- Two conditions on the same type are made from the selections together. -/
theorem ConditionOf.join {t t' : TypeCondition} (h : ConditionOf c s possible sels t) (h' : ConditionOf c s possible sels t')
    (hname : t.type.name = t'.type.name) : ConditionOf c s possible sels (t.join t') := by
  have hsame : t'.set.possibleTypes = t.set.possibleTypes := by rw [h.types, h'.types, hname]
  refine ⟨h.types, allFit_append.mpr ⟨h.fits, hsame ▸ h'.fits⟩, ?_, ?_⟩
  · intro name hn
    simp only [TypeCondition.join, allSpreadNames_append, List.mem_append] at hn
    rcases hn with hn | hn
    · exact h.spreads hn
    · exact h'.spreads hn
  · intro v os inner ht hos hinner
    obtain ⟨first, second, rfl, hfirst, hsecond⟩ := hinner.unappend
    have ht' : v.types ⊆ t'.set.possibleTypes := hsame ▸ ht
    exact List.append_subset.mpr ⟨h.met ht hos hfirst, h'.met ht' hos hsecond⟩

/-- A type condition is made from itself. -/
theorem conditionOf_self {t : NamedType} {set : SelectionSet} (h : (Selection.typeCondition t set).Fits s possible) :
    ConditionOf c s possible [.typeCondition t set] ⟨t, set⟩ := by
  refine ⟨h.1, h.2, ?_, ?_⟩
  · simp [allSpreadNames, Selection.spreadNames]
  · intro v os inner ht hos hinner
    cases hos with
    | enterCondition _ hi hnil =>
      cases hnil
      rw [List.append_nil, hinner.unique hi]
      exact List.Subset.refl _
    | passCondition hp _ => exact absurd ht hp

/-- A condition inside a guard, with its selections in that guard, is made from the guarded set. -/
theorem ConditionOf.guarded {flag : String} {inverted : Bool} {t : TypeCondition} (h : ConditionOf c s possible sels t) :
    ConditionOf c s possible [.guarded flag inverted ⟨possible, sels⟩] (t.guarded flag inverted) := by
  obtain ⟨type, ts, inside⟩ := t
  refine ⟨h.types, ⟨⟨rfl, h.fits⟩, trivial⟩, ?_, ?_⟩
  · simpa [TypeCondition.guarded, allSpreadNames, Selection.spreadNames] using h.spreads
  · intro v os inner ht hos hinner
    cases hinner with
    | enterGuard ha hi hnil =>
      cases hnil
      cases hos with
      | enterGuard _ hi' hnil =>
        cases hnil
        rw [List.append_nil, List.append_nil]
        exact List.map_subset _ (h.met ht hi' hi)
      | passGuard hp _ =>
        rw [ha] at hp
        cases hp
    | passGuard _ hnil =>
      cases hnil
      exact List.nil_subset _

/-- The entries are conditions made from the selections, each under the name of its type. -/
def ConditionsOf (c : Context) (s : Schema) (possible : List String) (sels : List Selection)
    (entries : Entries TypeCondition) : Prop :=
  ∀ e ∈ entries, e.1 = e.2.type.name ∧ ConditionOf c s possible sels e.2

/-- One more condition leaves entries that are made from the selections. -/
theorem ConditionsOf.insert {entries : Entries TypeCondition} {t : TypeCondition}
    (h : ConditionsOf c s possible sels entries) (ht : ConditionOf c s possible sels t) :
    ConditionsOf c s possible sels (TypeCondition.insert entries t) := by
  intro e he
  unfold TypeCondition.insert at he
  split at he
  · rcases Entries.mem_put he with he | rfl
    · exact h e he
    · exact ⟨rfl, ht⟩
  · rename_i existing hex
    rcases Entries.mem_put he with he | rfl
    · exact h e he
    · obtain ⟨hname, hcond⟩ := h _ (Entries.mem_of_get? hex)
      exact ⟨hname, hcond.join ht hname.symm⟩

theorem ConditionsOf.insertAll {ts : List TypeCondition} {entries : Entries TypeCondition}
    (h : ConditionsOf c s possible sels entries) (hts : ∀ t ∈ ts, ConditionOf c s possible sels t) :
    ConditionsOf c s possible sels (ts.foldl TypeCondition.insert entries) := by
  induction ts generalizing entries with
  | nil => exact h
  | cons t rest ih =>
    exact ih (h.insert (hts t List.mem_cons_self)) fun u hu => hts u (List.mem_cons_of_mem t hu)

/-- Collecting type conditions from some of the selections leaves entries that are made from the selections. -/
theorem conditionsOf_conditionsFrom (some : List Selection) :
    ∀ {sels : List Selection} {entries : Entries TypeCondition}, some ⊆ sels → AllFit s possible some →
      ConditionsOf c s possible sels entries → ConditionsOf c s possible sels (conditionsFrom entries some) := by
  induction some using selections_induction with
  | nil => exact fun _ _ h => h
  | field f rest _ ih =>
    intro sels entries hsub hfit h
    exact ih (List.subset_of_cons_subset hsub) hfit.2 h
  | typeCondition t ts inner rest _ ih =>
    intro sels entries hsub hfit h
    have hx := (conditionOf_self (c := c) hfit.1).of_mem (hsub List.mem_cons_self)
    exact ih (List.subset_of_cons_subset hsub) hfit.2 (h.insert hx)
  | spread name rest ih =>
    intro sels entries hsub hfit h
    exact ih (List.subset_of_cons_subset hsub) hfit.2 h
  | guarded flag inverted ts inner rest ihi ih =>
    intro sels entries hsub hfit h
    obtain ⟨rfl, hinner⟩ := hfit.1
    refine ih (List.subset_of_cons_subset hsub) hfit.2 (h.insertAll fun t ht => ?_)
    -- what stands inside the guard is collected by itself first
    obtain ⟨u, hu, rfl⟩ := List.mem_map.mp ht
    obtain ⟨e, he, rfl⟩ := List.mem_map.mp hu
    have hin : ConditionsOf c s ts inner (conditionsFrom [] inner) :=
      ihi (List.Subset.refl _) hinner (fun e he => by simp at he)
    exact ((hin e he).2.guarded).of_mem (hsub List.mem_cons_self)

/-- The type conditions of a set that fits the schema are made from its selections. -/
theorem conditionOf_typeConditions {set : SelectionSet} (h : AllFit s set.possibleTypes set.selections) {name : String}
    {t : TypeCondition} (ht : (name, t) ∈ typeConditions set.selections) :
    ConditionOf c s set.possibleTypes set.selections t :=
  (conditionsOf_conditionsFrom set.selections (List.Subset.refl _) h (fun e he => by simp at he) _ ht).2

/-! ## Fragments that are spread -/

/-- A walk meets in a fragment that it enters nothing that it does not meet in selections that spread the fragment. -/
theorem Context.Walks.fragment_subset {v : Visit} {name : String} {f : Fragment} {os inner : List Occurrence}
    (hos : c.Walks v sels os) (hx : .spread name ∈ sels) (hf : c.fragments.get? name = some f)
    (ht : v.types ⊆ f.possibleTypes) (hinner : c.Walks v f.set.selections inner) : inner ⊆ os := by
  intro o ho
  refine hos.mem_iff.mpr ⟨.spread name, hx, inner, ?_, ho⟩
  simpa using Context.Walks.enterSpread hf ht hinner .nil

end

/-! ## From one class to the next -/

section
variable {s : Schema} {options : Options} {d : Language.Document} {c : Context} {type : String} {set view : SelectionSet}

/-- What holds of a view: it fits the schema, the object type is possible in it, its spreads are declared if those of the set
are, and executing it meets nothing that executing the set does not meet. -/
structure ViewOf (c : Context) (s : Schema) (type : String) (set view : SelectionSet) : Prop where
  fits : AllFit s view.possibleTypes view.selections
  possible : type ∈ view.possibleTypes
  declares : c.SpreadsDeclared → c.Declares set.selections → c.Declares view.selections
  met : ∀ {values os inner}, c.Walks (.executing values type) set.selections os →
    c.Walks (.executing values type) view.selections inner → inner ⊆ os

/-- The class of a type condition is a view of what the class it belongs to is a view of. -/
theorem ViewOf.condition (acyclic : c.Acyclic) (h : ViewOf c s type set view) {name : String} {t : TypeCondition}
    (ht : (name, t) ∈ typeConditions view.selections) (hpossible : type ∈ t.set.possibleTypes) :
    ViewOf c s type set t.set := by
  have hcond : ConditionOf c s view.possibleTypes view.selections t := conditionOf_typeConditions h.fits ht
  refine ⟨hcond.fits, hpossible, fun hfragments hset n hn => h.declares hfragments hset n (hcond.spreads hn), ?_⟩
  intro values os inner hos hinner
  obtain ⟨middle, hmiddle⟩ := acyclic.exists_walks (.executing values type) view.selections
  have hsub : inner ⊆ middle := hcond.met (by simpa [Visit.executing] using hpossible) hmiddle hinner
  exact List.Subset.trans hsub (h.met hos hmiddle)

/-- The class of a fragment is a view of what the class that spreads it is a view of. -/
theorem ViewOf.fragment (hc : Context.ofDocument s options d = .ok c) (acyclic : c.Acyclic) (h : ViewOf c s type set view)
    {properties : Entries Property} {name : String} {f : Fragment}
    (hproperties : c.fragmentProperties view [] view.selections = .ok properties) (hname : properties.has name = true)
    (hf : c.fragments.get? name = some f) (hpossible : type ∈ f.possibleTypes) : ViewOf c s type set f.set := by
  obtain ⟨htypes, hfits⟩ := Context.fragment_fits hc hf
  have hspread : .spread name ∈ view.selections := by
    have hnames := (Context.fragmentProperties_spec hproperties).1 name
    simpa [Entries.names] using hnames.mp (Entries.has_iff_mem_names.mp hname)
  refine ⟨hfits, htypes ▸ hpossible, fun hfragments _ => hfragments name f hf, ?_⟩
  intro values os inner hos hinner
  obtain ⟨middle, hmiddle⟩ := acyclic.exists_walks (.executing values type) view.selections
  have hsub : inner ⊆ middle :=
    hmiddle.fragment_subset hspread hf (by simpa [Visit.executing] using hpossible) hinner
  exact List.Subset.trans hsub (h.met hos hmiddle)

/-- Every class that is reached is a view of the set. -/
theorem Context.Views.viewOf (hc : Context.ofDocument s options d = .ok c) (acyclic : c.Acyclic)
    (hfits : AllFit s set.possibleTypes set.selections) (hpossible : type ∈ set.possibleTypes)
    (h : c.Views type set view) : ViewOf c s type set view := by
  induction h with
  | self =>
    refine ⟨hfits, hpossible, fun _ h => h, fun hos hinner => ?_⟩
    rw [hos.unique hinner]
    exact List.Subset.refl _
  | condition _ ht hp ih => exact ih.condition acyclic ht hp
  | fragment _ hproperties hname hf hp ih => exact ih.fragment hc acyclic hproperties hname hf hp

end

/-- Views never miss a key that they take for granted. Take a selection set of a resolved document with acyclic spreads, an
object type that is possible in it and values of the variables, and execute the set. The record that has the object type in
the record case of the set has every key of the response. And for the set itself and every class that is reached from its
class through type conditions and fragments that the object type can have, each field that all possible types of that class
have in common, and that is not marked conditional, has its key in the response. The record cases exist where all spreads are
declared. -/
theorem views_never_miss (s : Schema) (options : Options) (d : Language.Document) (c : Context)
    (resolved : Context.ofDocument s options d = .ok c) (acyclic : c.Acyclic) (set : SelectionSet) (held : c.Holds set)
    (type : String) (possible : type ∈ set.possibleTypes) (values : String → Bool) :
    ∃ os, c.Walks (.executing values type) set.selections os ∧
      (∀ cases, c.casesOf set = .ok cases →
        (∃ r ∈ cases.records, type ∈ r.possibleTypes) ∧
        ∀ r ∈ cases.records, type ∈ r.possibleTypes → ∀ o ∈ os, o.key ∈ r.fields.map (·.responseKey)) ∧
      (∀ view, c.Views type set view → ∀ cases, c.casesOf view = .ok cases →
        ∀ f ∈ cases.common.fields, f.conditional = false → ∃ o ∈ os, o.key = f.responseKey) ∧
      (c.SpreadsDeclared → c.Declares set.selections →
        ∀ view, c.Views type set view → ∃ cases, c.casesOf view = .ok cases) := by
  have hfits := held.fits resolved
  have hcover := Context.fragmentsCover_of_ofDocument resolved
  obtain ⟨os, hos⟩ := acyclic.exists_walks (.executing values type) set.selections
  refine ⟨os, hos, ?_, ?_, ?_⟩
  · intro cases hcases
    obtain ⟨all, hall⟩ := acyclic.exists_walks (.collecting [type]) set.selections
    obtain ⟨hexists, hkeys⟩ :=
      records_of_casesOf hcover (AllFit.guardsCover _ hfits) possible hcases hall
    refine ⟨hexists, fun r hr ht o ho => ?_⟩
    rw [hkeys r hr ht]
    exact mem_grouped_names.mpr ⟨o, hos.mem_of_admits hall (List.Subset.refl _) o ho (fun _ _ => rfl), rfl⟩
  · intro view hview cases hcases f hf hconditional
    have hv := hview.viewOf resolved acyclic hfits possible
    obtain ⟨inner, hinner⟩ := acyclic.exists_walks (.executing values type) view.selections
    have hrequires : c.Requires view.possibleTypes view.selections f.responseKey :=
      (unconditional_iff_requires acyclic (List.ne_nil_of_mem hv.possible) hcases).mp ⟨f, hf, hconditional, rfl⟩
    obtain ⟨o, ho, hkey⟩ := key_of_requires hrequires hv.possible hinner
    exact ⟨o, hv.met hos hinner ho, hkey⟩
  · intro declared here view hview
    have hv := hview.viewOf resolved acyclic hfits possible
    obtain ⟨merged, hm⟩ := Context.mergeSpreads_ok acyclic declared (hv.declares declared here)
    exact exists_casesOf hm

theorem views_never_miss_pet :
    Context.ofDocument petSchema default petDocument = .ok petContext ∧ petContext.Acyclic ∧
      petContext.Holds petAsked ∧ "Dog" ∈ petAsked.possibleTypes ∧
      (∃ view, petContext.Views "Dog" petAsked view ∧ view.possibleTypes = ["Dog"]) ∧
      ∃ os, petContext.Walks (.executing (fun _ => true) "Dog") petAsked.selections os ∧
        (∀ cases, petContext.casesOf petAsked = .ok cases →
          (∃ r ∈ cases.records, "Dog" ∈ r.possibleTypes) ∧
          ∀ r ∈ cases.records, "Dog" ∈ r.possibleTypes → ∀ o ∈ os, o.key ∈ r.fields.map (·.responseKey)) ∧
        (∀ view, petContext.Views "Dog" petAsked view → ∀ cases, petContext.casesOf view = .ok cases →
          ∀ f ∈ cases.common.fields, f.conditional = false → ∃ o ∈ os, o.key = f.responseKey) ∧
        (petContext.SpreadsDeclared → petContext.Declares petAsked.selections →
          ∀ view, petContext.Views "Dog" petAsked view → ∃ cases, petContext.casesOf view = .ok cases) := by
  have hoperation : petContext.Holds _ := @Context.Holds.operation petContext "Pet" _ rfl
  have held : petContext.Holds petAsked := .field hoperation List.mem_cons_self rfl
  obtain ⟨t, ht, htypes⟩ : ∃ t, ("Dog", t) ∈ typeConditions petAsked.selections ∧ t.set.possibleTypes = ["Dog"] :=
    ⟨_, List.mem_cons_self, rfl⟩
  have hview : petContext.Views "Dog" petAsked t.set := .condition .self ht (by simp [htypes])
  exact ⟨petContext_eq, petContext_acyclic, held, by decide, ⟨t.set, hview, htypes⟩,
    views_never_miss petSchema default petDocument petContext petContext_eq petContext_acyclic petAsked held "Dog"
      (by decide) fun _ => true⟩

end TypedOperations
