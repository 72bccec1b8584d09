import TypedOperations.Proofs.Selection.Conditions

/-!
# Sets without redundant type conditions

Where a type condition covers the set around it, its selections take its place, and the conditions among them are compared with
that set in turn. A condition that stays, and a guard, have a set with possible types of their own, and what stands in it is
compared with these. So what is left at any depth outside fields is a spliced set (`spliced_of_encloses`), in which no condition
covers the types around it. Sets of which this holds are exactly those that splicing leaves as they are
(`inlineRedundant_eq_iff`).
-/

namespace TypedOperations

/-- A set, or one that stands in it outside fields: the set of a type condition or a guard at any depth. -/
inductive SelectionSetOf.Encloses : SelectionSet → SelectionSet → Prop where
  | self (set : SelectionSet) : Encloses set set
  | condition {outer inner set : SelectionSet} {t : NamedType} :
      .typeCondition t inner ∈ outer.selections → Encloses inner set → Encloses outer set
  | guarded {outer inner set : SelectionSet} {flag : String} {inverted : Bool} :
      .guarded flag inverted inner ∈ outer.selections → Encloses inner set → Encloses outer set

/-- Neither in the set nor in any that stands in it outside fields, a type condition covers the possible types around it. -/
def SelectionSetOf.Irredundant (outer : SelectionSet) : Prop :=
  ∀ set, outer.Encloses set → ∀ t inner, .typeCondition t inner ∈ set.selections → ¬set.possibleTypes ⊆ inner.possibleTypes

/-- What splicing can leave in a set over the types `possible`. -/
inductive Selection.LeftIn (possible : List String) : Selection → Prop where
  | field (f : Field) : LeftIn possible (.field f)
  | condition (t : NamedType) (set : SelectionSet) :
      ¬possible ⊆ set.possibleTypes → LeftIn possible (.typeCondition t set.inlineRedundant)
  | spread (name : String) : LeftIn possible (.spread name)
  | guarded (flag : String) (inverted : Bool) (set : SelectionSet) :
      LeftIn possible (.guarded flag inverted set.inlineRedundant)

/-! ## What is left is spliced -/

/-- Splicing leaves fields, spreads, guards, and conditions that do not cover the types around them. -/
theorem leftIn_of_mem (sels : List Selection) :
    ∀ {possible : List String}, ∀ x ∈ inlineAll possible sels, x.LeftIn possible := by
  induction sels using selections_induction with
  | nil => exact fun x hx => absurd hx List.not_mem_nil
  | field f rest _ ih =>
    intro possible
    exact List.forall_mem_cons.mpr ⟨.field f, ih⟩
  | typeCondition t ts inner rest ihi ih =>
    intro possible
    rw [inlineAll, Selection.inlined]
    refine List.forall_mem_append.mpr ⟨?_, ih⟩
    split
    · -- the selections of a covering condition are spliced for the types around it, not for its own
      exact ihi
    · rename_i hcovers
      refine List.forall_mem_singleton.mpr (.condition t ⟨ts, inner⟩ ?_)
      exact fun hsub => hcovers (coveredBy_iff.mpr hsub)
  | spread name rest ih =>
    intro possible
    exact List.forall_mem_cons.mpr ⟨.spread name, ih⟩
  | guarded flag inverted ts inner rest _ ih =>
    intro possible
    exact List.forall_mem_cons.mpr ⟨.guarded flag inverted ⟨ts, inner⟩, ih⟩

/-- The sets that are left at any depth outside fields are spliced sets. -/
theorem spliced_of_encloses {outer set : SelectionSet} (h : outer.Encloses set) :
    ∀ original : SelectionSet, outer = original.inlineRedundant → ∃ before : SelectionSet, set = before.inlineRedundant := by
  induction h with
  | self set => exact fun original heq => ⟨original, heq⟩
  | condition hx _ ih =>
    rintro original rfl
    cases leftIn_of_mem original.selections _ hx with
    | condition _ before _ => exact ih before rfl
  | guarded hx _ ih =>
    rintro original rfl
    cases leftIn_of_mem original.selections _ hx with
    | guarded _ _ before => exact ih before rfl

/-- No condition in a spliced set, or in a set that is left in it, covers the types around it. -/
theorem irredundant_inlineRedundant (set : SelectionSet) : set.inlineRedundant.Irredundant := by
  intro left hleft t inner ht
  obtain ⟨before, rfl⟩ := spliced_of_encloses hleft set rfl
  cases leftIn_of_mem before.selections _ ht with
  | condition _ _ hcovers => exact hcovers

/-! ## What is spliced stays -/

section
variable {possible : List String} {x : Selection} {rest : List Selection}

/-- Without its first selection, a set is still without redundant conditions. -/
theorem SelectionSetOf.Irredundant.tail (h : SelectionSetOf.Irredundant ⟨possible, x :: rest⟩) :
    SelectionSetOf.Irredundant ⟨possible, rest⟩ := by
  intro set hset t inner ht
  cases hset with
  | self => exact h _ (.self _) t inner (List.mem_cons_of_mem x ht)
  | condition hy hin => exact h _ (.condition (List.mem_cons_of_mem x hy) hin) t inner ht
  | guarded hy hin => exact h _ (.guarded (List.mem_cons_of_mem x hy) hin) t inner ht

/-- Splicing changes nothing where no condition is redundant. -/
theorem inlineAll_eq_self (sels : List Selection) :
    ∀ {possible : List String}, SelectionSetOf.Irredundant ⟨possible, sels⟩ → inlineAll possible sels = sels := by
  induction sels using selections_induction with
  | nil => exact fun _ => rfl
  | field f rest _ ih => exact fun h => congrArg _ (ih h.tail)
  | typeCondition t ts inner rest ihi ih =>
    intro possible h
    have hcovers : ¬coveredBy possible ts = true :=
      fun hcov => h _ (.self _) t ⟨ts, inner⟩ List.mem_cons_self (coveredBy_iff.mp hcov)
    have hinner : SelectionSetOf.Irredundant ⟨ts, inner⟩ := fun set hset => h set (.condition List.mem_cons_self hset)
    rw [inlineAll, Selection.inlined, if_neg hcovers, ihi hinner, ih h.tail, List.singleton_append]
  | spread name rest ih => exact fun h => congrArg _ (ih h.tail)
  | guarded flag inverted ts inner rest ihi ih =>
    intro possible h
    have hinner : SelectionSetOf.Irredundant ⟨ts, inner⟩ := fun set hset => h set (.guarded List.mem_cons_self hset)
    rw [inlineAll, Selection.inlined, ihi hinner, ih h.tail, List.singleton_append]

end

/-- Splicing leaves exactly the sets without redundant conditions as they are. -/
theorem inlineRedundant_eq_iff (set : SelectionSet) : set.inlineRedundant = set ↔ set.Irredundant := by
  constructor
  · intro h
    exact h ▸ irredundant_inlineRedundant set
  · intro h
    rw [SelectionSetOf.inlineRedundant, inlineAll_eq_self set.selections h]

/-- A reader who enters every set meets the same before and after splicing. -/
theorem allMet_inlineAll (sels : List Selection) :
    ∀ possible : List String, allMet (fun _ => true) (inlineAll possible sels) = allMet (fun _ => true) sels := by
  induction sels using selections_induction with
  | nil => exact fun _ => rfl
  | field f rest _ ih =>
    intro possible
    rw [inlineAll, Selection.inlined, List.singleton_append, allMet, allMet, ih possible]
  | typeCondition t ts inner rest ihi ih =>
    intro possible
    have hmet : ∀ sels, (Selection.typeCondition t ⟨ts, sels⟩).met (fun _ => true) = allMet (fun _ => true) sels :=
      fun sels => by rw [Selection.met, if_pos rfl]
    rw [inlineAll, Selection.inlined, allMet_append, allMet, hmet, ih possible]
    congr 1
    split
    · exact ihi possible
    · rw [allMet, allMet, hmet, List.append_nil, ihi ts]
  | spread name rest ih =>
    intro possible
    rw [inlineAll, Selection.inlined, List.singleton_append, allMet, allMet, ih possible]
  | guarded flag inverted ts inner rest ihi ih =>
    intro possible
    rw [inlineAll, Selection.inlined, List.singleton_append, allMet, allMet, Selection.met, Selection.met, ihi ts, ih possible]

/-- Splicing reaches a normal form. Take any set, over any possible types or none. After splicing, no type condition in it, or in
the set of a guard or type condition that is left at any depth outside fields, covers the possible types of the set it stands
in. Splicing once more changes nothing, and sets of this form are the only ones that it leaves as they are. On the way no field
or spread is lost or moved, and each stays in its guards. -/
theorem inlineRedundant_normal (set : SelectionSet) :
    set.inlineRedundant.Irredundant ∧ set.inlineRedundant.inlineRedundant = set.inlineRedundant ∧
      (set.inlineRedundant = set ↔ set.Irredundant) ∧
      allMet (fun _ => true) set.inlineRedundant.selections = allMet (fun _ => true) set.selections := by
  have hnormal := irredundant_inlineRedundant set
  exact ⟨hnormal, (inlineRedundant_eq_iff _).mpr hnormal, inlineRedundant_eq_iff set,
    allMet_inlineAll set.selections set.possibleTypes⟩

end TypedOperations
