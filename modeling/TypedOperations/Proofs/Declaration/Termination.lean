import TypedOperations.Proofs.Declaration.Nested
import TypedOperations.Proofs.Selection.Describing
import TypedOperations.Proofs.Selection.Nesting

/-!
# Making declarations ends

Classes are made with a number of steps that bounds how deep they nest, and spreads are replaced with another. Neither number
matters as long as it is large enough, and it is: the set of a nested class nests less deep than the outer set once all spreads
in it are followed (`Context.Nests.nesting_lt`), although it need not be a part of that set, so a chain of nested classes is no
longer than the outermost set is deep. Without the bounds the same calls would come to the same results.
-/

namespace TypedOperations

section
variable {c : Context}

/-! ## Nested sets are less deep -/

/-- The set of a nested class nests less deep than the outer one. -/
theorem Context.Nests.nesting_lt (acyclic : c.ReferencesAcyclic) {outer inner : SelectionSet} (h : c.Nests outer inner) :
    c.nesting inner < c.nesting outer := by
  refine h.keeps (P := fun sels => nestingOfAll (c.rank c.fragments.length) sels < c.nesting outer) ?_ ?_ ?_ ?_
  · intro a b ha hb
    rw [nestingOfAll_append]
    exact Nat.max_lt.mpr ⟨ha, hb⟩
  · intro flag inverted set hset
    rw [nestingOfAll, nestingOfAll, Selection.nesting, Nat.max_zero]
    exact hset
  · intro t set hset
    have hle : (Selection.typeCondition t set).nesting (c.rank c.fragments.length) ≤ c.nesting outer :=
      unguarded_keeps (P := fun x => x.nesting (c.rank c.fragments.length) ≤ c.nesting outer)
        (fun _ _ _ hguarded _ hx => Nat.le_trans (nesting_le_of_mem _ hx) hguarded) outer.selections
        (fun _ hx => nesting_le_of_mem _ hx) _ hset
    rw [Selection.nesting] at hle
    exact hle
  · intro f sub hoffers hsub
    exact hoffers.nesting_lt acyclic hsub

/-! ## Making a class -/

/-- A class is the same with any number of steps that is greater than how deep its set nests. -/
theorem Context.recordClass_eq_of_lt (acyclic : c.ReferencesAcyclic) (fuel : Nat) :
    ∀ {fuel' : Nat} {set : SelectionSet}, c.nesting set < fuel → c.nesting set < fuel' → ∀ scope role name,
      c.recordClass fuel scope role name set = c.recordClass fuel' scope role name set := by
  induction fuel with
  | zero => exact fun h => absurd h (Nat.not_lt_zero _)
  | succ fuel ih =>
    intro fuel' set h h' scope role name
    obtain ⟨fuel', rfl⟩ : ∃ n, fuel' = n + 1 := ⟨fuel' - 1, by omega⟩
    refine Context.recordClass_congr fun inner hinner path name => ?_
    have hlt := hinner.nesting_lt acyclic
    exact ih (by omega) (by omega) path {} name

/-- A record case of a context with acyclic spreads is missing only for want of a fragment. -/
theorem Context.casesOf_failsOnly (acyclic : c.Acyclic) (set : SelectionSet) : FailsOnly c.IsMissing (c.casesOf set) := by
  refine (Context.mergeSpreads_failsOnly acyclic set).bind fun merged hm => ?_
  obtain ⟨cases, hcases, -⟩ := recordsOf_ofSet (Context.passes_of_mergeSpreads hm).2
  rw [hcases]
  exact failsOnly_ok cases

/-- The steps for making a class do not run out if there are more than its set nests deep. -/
theorem Context.recordClass_not_cycle (acyclic : c.ReferencesAcyclic) (fuel : Nat) :
    ∀ {set : SelectionSet}, c.nesting set < fuel → ∀ scope role name,
      FailsOnly (fun e => e.isCycle = false) (c.recordClass fuel scope role name set) := by
  induction fuel with
  | zero => exact fun h => absurd h (Nat.not_lt_zero _)
  | succ fuel ih =>
    intro set h scope role name
    refine Context.recordClass_failsOnly (fun _ => Fault.not_cycle_of_plain) ?_ ?_ ?_ ?_
    · refine (Context.casesOf_failsOnly acyclic.acyclic set).mono fun e he => ?_
      obtain ⟨_, -, rfl⟩ := he
      rfl
    · intro cases fragments path f _ _ e he
      unfold recordReference at he
      split at he
      · split at he
        · cases he
        · cases he
          rfl
      · cases he
    · exact fun _ _ _ _ _ _ _ _ => rfl
    · intro inner hinner path name
      have hlt := hinner.nesting_lt acyclic
      exact ih (by omega) path {} name

/-- The sets of operations and fragments nest less deep than there are steps. -/
theorem Context.nesting_lt_depthBound {set : SelectionSet} (h : set ∈ c.sets) : c.nesting set < c.depthBound := by
  have hle := c.nesting_le h
  have hbound : (c.depth + 1) * (c.fragments.length + 1) = (c.fragments.length + 1) * c.depth + (c.fragments.length + 1) := by
    rw [Nat.mul_comm, Nat.mul_succ]
  rw [Context.depthBound, hbound]
  omega

/-- The declarations have the faults of the classes of operations and fragments, and faults of what the module is generated
from. -/
theorem Context.declarations_failsOnly {P : Fault → Prop} (plain : ∀ e, e.isPlain = true → P e)
    (h : ∀ set ∈ c.sets, ∀ scope role name, FailsOnly P (c.recordClass c.depthBound scope role name set)) :
    FailsOnly P c.declarations := by
  have htypes : FailsOnly P (c.typesUsed.filterMapM c.typeClass) :=
    FailsOnly.filterMapM fun t _ => (failsPlainly_typeClass c t).mono plain
  have hoperation : ∀ o ∈ c.operations.values, FailsOnly P (c.operationClass o) := by
    intro o ho
    have hname : FailsPlainly o.className := by
      unfold Operation.className
      split
      · exact failsOnly_ok _
      · exact failsOnly_ok _
      · exact failsPlainly_error rfl
    have hparameter : ∀ v, FailsPlainly (c.options.variableProperty v) :=
      fun v => (failsPlainly_typeExpression c.options _ _).bind fun _ _ => failsOnly_ok _
    have hparameters : FailsOnly P (o.parameters.mapM c.options.variableProperty) :=
      FailsOnly.mapM fun v _ => (hparameter v).mono plain
    have hdata := h o.set (List.mem_append_left _ (List.mem_map_of_mem ho))
    refine (hname.mono plain).bind fun names _ => ?_
    refine ((failsPlainly_fragmentsReached c o.set).mono plain).bind fun reached _ => ?_
    dsimp only
    split
    · exact ((failsPlainly_operationId c o reached).mono plain).map.bind fun _ _ =>
        hparameters.bind fun _ _ => (hdata _ _ _).bind fun _ _ => failsOnly_ok _
    · exact (failsOnly_ok _).bind fun _ _ => hparameters.bind fun _ _ => (hdata _ _ _).bind fun _ _ => failsOnly_ok _
  have hfragment : ∀ f ∈ c.fragments.values, FailsOnly P (c.fragmentClass f) :=
    fun f hf => h f.set (List.mem_append_right _ (List.mem_map_of_mem hf)) _ _ _
  exact htypes.bind fun _ _ => (FailsOnly.mapM hoperation).bind fun _ _ =>
    (FailsOnly.mapM hfragment).bind fun _ _ => failsOnly_ok _

end

/-- Making declarations ends. Where no fragment comes back to itself through references, in field sub-selections or outside
them, the sets of nested classes are well founded; the class of every operation and fragment is the same with any number of
steps from the bound on, and the steps do not run out, so the declarations fail for other reasons only. Replacing spreads by
itself ends as soon as no fragment comes back to itself outside field sub-selections: spreads are well founded then, more steps
than there are fragments change nothing, and it fails only for want of a fragment. -/
theorem declarations_terminate (c : Context) :
    (c.ReferencesAcyclic →
      WellFounded (fun inner outer => c.Nests outer inner) ∧
      (∀ set ∈ c.sets, ∀ scope role name,
        (∀ fuel, c.depthBound ≤ fuel →
          c.recordClass fuel scope role name set = c.recordClass c.depthBound scope role name set) ∧
        ∀ other, c.recordClass c.depthBound scope role name set ≠ .error (.cyclicFragments other)) ∧
      ∀ name, c.declarations ≠ .error (.cyclicFragments name)) ∧
    (c.Acyclic →
      WellFounded (fun inner outer => c.Spreads outer inner) ∧
      ∀ set : SelectionSet,
        (∀ fuel, c.fragments.length < fuel →
          Spreads.mergeAll (Spreads.expand c fuel) set.possibleTypes set.selections =
            Spreads.mergeAll (Spreads.expand c (c.fragments.length + 1)) set.possibleTypes set.selections) ∧
        ∀ e, c.mergeSpreads set = .error e → ∃ name, c.fragments.has name = false ∧ e = .unknownFragment name) := by
  refine ⟨fun acyclic => ?_, fun acyclic => ⟨?_, fun set => ⟨fun fuel hfuel => ?_, Context.mergeSpreads_failsOnly acyclic set⟩⟩⟩
  · have hclass : ∀ set ∈ c.sets, ∀ scope role name,
        FailsOnly (fun e => e.isCycle = false) (c.recordClass c.depthBound scope role name set) :=
      fun set hset => Context.recordClass_not_cycle acyclic _ (c.nesting_lt_depthBound hset)
    refine ⟨?_, fun set hset scope role name => ⟨fun fuel hfuel => ?_, fun other h => ?_⟩, fun name h => ?_⟩
    · have hlower : Subrelation (fun inner outer => c.Nests outer inner) (InvImage (· < ·) c.nesting) :=
        fun hnests => hnests.nesting_lt acyclic
      exact hlower.wf (InvImage.wf c.nesting Nat.lt_wfRel.wf)
    · have hlt := c.nesting_lt_depthBound hset
      exact Context.recordClass_eq_of_lt acyclic fuel (by omega) hlt scope role name
    · cases hclass set hset scope role name _ h
    · cases Context.declarations_failsOnly (fun _ => Fault.not_cycle_of_plain) hclass _ h
  · refine ⟨fun name => acyclic.induction (motive := fun _ name => Acc (fun inner outer => c.Spreads outer inner) name) ?_ name⟩
    intro _ name ih
    refine ⟨name, fun b hb => ?_⟩
    obtain ⟨f, hf, hb⟩ := hb
    exact ih f hf b hb
  · exact mergeAll_congr set.selections set.possibleTypes fun name _ => expand_eq_of_le acyclic name hfuel

/-- The friends of a person, with what is asked of them. -/
def friendsField (asked : List Selection) : Selection :=
  .field { responseKey := "friends", name := "friends", type := .list (.named ⟨"Person", .object⟩ true) false,
           selectionSet := some ⟨["Person"], asked⟩ }

/-- A query for a person whose friends are asked for in three places, each time with another fragment: in the query, in a
fragment, and below a guard and a condition in a fragment that this one spreads. -/
def familyContext : Context where
  schema := default
  operations :=
    [("Family", ⟨"Family", .query, [], "", ⟨["Query"],
        [.field { responseKey := "person", name := "person", type := .named ⟨"Person", .object⟩ false,
                  selectionSet := some ⟨["Person"], [.spread "Close", friendsField [.spread "Wide"]]⟩ }]⟩, none⟩)]
  fragments :=
    [("Close", ⟨"Close", ⟨"Person", .object⟩, ["Person"], ⟨["Person"],
        [friendsField [.spread "Named"], .spread "Wide"]⟩, ""⟩),
     ("Wide", ⟨"Wide", ⟨"Node", .interface⟩, ["Person", "Place"], ⟨["Person", "Place"],
        [.guarded "wide" false ⟨["Person", "Place"],
          [.typeCondition ⟨"Person", .object⟩ ⟨["Person"], [friendsField [friendsField [.spread "Named"]]]⟩]⟩]⟩, ""⟩),
     ("Named", ⟨"Named", ⟨"Person", .object⟩, ["Person"], ⟨["Person"],
        [.field { responseKey := "name", name := "name", type := .named ⟨"String", .scalar⟩ true }]⟩, ""⟩)]
  typesUsed := []
  options := default

theorem familyContext_referencesAcyclic : familyContext.ReferencesAcyclic :=
  Context.referencesAcyclic_of_rank (fun name => if name = "Close" then 2 else if name = "Wide" then 1 else 0) (by decide)

theorem declarations_terminate_family :
    familyContext.ReferencesAcyclic ∧ familyContext.Acyclic ∧
      WellFounded (fun inner outer => familyContext.Nests outer inner) ∧
      (∀ name, familyContext.declarations ≠ .error (.cyclicFragments name)) ∧
      WellFounded (fun inner outer => familyContext.Spreads outer inner) :=
  have acyclic := familyContext_referencesAcyclic
  have h := declarations_terminate familyContext
  ⟨acyclic, acyclic.acyclic, (h.1 acyclic).1, (h.1 acyclic).2.2, (h.2 acyclic.acyclic).1⟩

end TypedOperations
