import TypedOperations.Proofs.Selection.Collecting
import TypedOperations.Proofs.Selection.DepthFirst
import TypedOperations.Selection.Depth

/-!
# How deep selections nest with their fragments

The depth of selections leaves out what they spread. With a rank for every fragment in the place of its spreads it counts
everything (`nestingOfAll`), and where no fragment refers to itself, in field sub-selections or outside them, there is such a
rank (`Context.rank`): following spreads through as many fragments as there are comes to rest. Then the sub-selections of
whatever field is on offer nest less deep than the selections that offer it (`Context.Offers.nesting_lt`), and no set of the
context nests deeper than the context is deep, once for every fragment and once more (`Context.nesting_le`).
-/

namespace TypedOperations

mutual

/-- The number of fields with sub-selections and of type conditions on the way to the innermost selection, in a context where
the fragment of a name nests as deep as its rank. -/
def Selection.nesting (rank : String → Nat) : Selection → Nat
  | .field ⟨_, _, _, _, _, _, none, _⟩ => 0
  | .field ⟨_, _, _, _, _, _, some ⟨_, sels⟩, _⟩ => nestingOfAll rank sels + 1
  | .typeCondition _ ⟨_, sels⟩ => nestingOfAll rank sels + 1
  | .spread name => rank name
  | .guarded _ _ ⟨_, sels⟩ => nestingOfAll rank sels

/-- The greatest number of fields with sub-selections and of type conditions on the way into selections. -/
def nestingOfAll (rank : String → Nat) : List Selection → Nat
  | [] => 0
  | x :: rest => max (x.nesting rank) (nestingOfAll rank rest)

end

/-- The sets of the operations and fragments of a context. -/
def Context.sets (c : Context) : List SelectionSet :=
  c.operations.values.map (·.set) ++ c.fragments.values.map (·.set)

/-- How deep the fragment of a name nests, with spreads followed through so many fragments. -/
def Context.rank (c : Context) : Nat → String → Nat
  | 0, _ => 0
  | steps + 1, name =>
    match c.fragments.get? name with
    | some f => nestingOfAll (c.rank steps) f.set.selections
    | none => 0

/-- How deep a set nests, with spreads followed through as many fragments as there are. -/
def Context.nesting (c : Context) (set : SelectionSet) : Nat :=
  nestingOfAll (c.rank c.fragments.length) set.selections

/-- No fragment comes back to itself through spreads, in field sub-selections or outside them. -/
def Context.ReferencesAcyclic (c : Context) : Prop :=
  ∀ name, ¬Relation.TransGen c.Refers name name

/-! ## Nesting of selections -/

section
variable {rank : String → Nat}

theorem nestingOfAll_append (a b : List Selection) :
    nestingOfAll rank (a ++ b) = max (nestingOfAll rank a) (nestingOfAll rank b) := by
  induction a with
  | nil => simp [nestingOfAll]
  | cons x rest ih => rw [List.cons_append, nestingOfAll, nestingOfAll, ih, Nat.max_assoc]

variable (rank) in
theorem nesting_le_of_mem {sels : List Selection} {x : Selection} (h : x ∈ sels) :
    x.nesting rank ≤ nestingOfAll rank sels := by
  obtain ⟨before, after, rfl⟩ := List.append_of_mem h
  rw [nestingOfAll_append, nestingOfAll]
  omega

theorem nesting_field {f : Field} {set : SelectionSet} (h : f.selectionSet = some set) :
    (Selection.field f).nesting rank = nestingOfAll rank set.selections + 1 := by
  obtain ⟨_, _, _, _, _, _, sub, _⟩ := f
  cases h
  rfl

/-- How deep selections nest depends on the ranks of the fragments that they refer to, and on no other. -/
theorem nestingOfAll_congr {rank' : String → Nat} (sels : List Selection) :
    (∀ name ∈ allReferences sels, rank name = rank' name) → nestingOfAll rank sels = nestingOfAll rank' sels := by
  induction sels using selections_induction with
  | nil => exact fun _ => rfl
  | field f rest ihf ih =>
    intro h
    obtain ⟨_, _, _, _, _, _, sub, _⟩ := f
    rw [nestingOfAll, nestingOfAll, ih fun n hn => h n (List.mem_append_right _ hn)]
    cases sub with
    | none => rfl
    | some set =>
      have hsub := ihf set rfl fun n hn => h n (List.mem_append_left _ hn)
      rw [nesting_field rfl, nesting_field rfl, hsub]
  | typeCondition t ts inner rest ihi ih =>
    intro h
    rw [nestingOfAll, nestingOfAll, Selection.nesting, Selection.nesting, ihi fun n hn => h n (List.mem_append_left _ hn),
      ih fun n hn => h n (List.mem_append_right _ hn)]
  | spread name rest ih =>
    intro h
    rw [nestingOfAll, nestingOfAll, Selection.nesting, Selection.nesting, h name List.mem_cons_self,
      ih fun n hn => h n (List.mem_cons_of_mem _ hn)]
  | guarded flag inverted ts inner rest ihi ih =>
    intro h
    rw [nestingOfAll, nestingOfAll, Selection.nesting, Selection.nesting, ihi fun n hn => h n (List.mem_append_left _ hn),
      ih fun n hn => h n (List.mem_append_right _ hn)]

/-- Fragments add at most the greatest of their ranks to the depth of selections. -/
theorem nestingOfAll_le {bound : Nat} (sels : List Selection) :
    (∀ name ∈ allReferences sels, rank name ≤ bound) → nestingOfAll rank sels ≤ depthOfAll sels + bound := by
  induction sels using selections_induction with
  | nil => exact fun _ => Nat.zero_le _
  | field f rest ihf ih =>
    intro h
    obtain ⟨_, _, _, _, _, _, sub, _⟩ := f
    have hrest := ih fun n hn => h n (List.mem_append_right _ hn)
    rw [nestingOfAll, depthOfAll]
    cases sub with
    | none =>
      rw [Selection.nesting, Selection.depth]
      omega
    | some set =>
      have hsub := ihf set rfl fun n hn => h n (List.mem_append_left _ hn)
      rw [Selection.nesting, Selection.depth]
      omega
  | typeCondition t ts inner rest ihi ih =>
    intro h
    have hinner := ihi fun n hn => h n (List.mem_append_left _ hn)
    have hrest := ih fun n hn => h n (List.mem_append_right _ hn)
    rw [nestingOfAll, depthOfAll, Selection.nesting, Selection.depth]
    omega
  | spread name rest ih =>
    intro h
    have hname := h name List.mem_cons_self
    have hrest := ih fun n hn => h n (List.mem_cons_of_mem _ hn)
    rw [nestingOfAll, depthOfAll, Selection.nesting, Selection.depth]
    omega
  | guarded flag inverted ts inner rest ihi ih =>
    intro h
    have hinner := ihi fun n hn => h n (List.mem_append_left _ hn)
    have hrest := ih fun n hn => h n (List.mem_append_right _ hn)
    rw [nestingOfAll, depthOfAll, Selection.nesting, Selection.depth]
    omega

end

/-! ## The rank of a fragment -/

/-- What is spread outside field sub-selections is referred to. -/
theorem allSpreadNames_subset_references (sels : List Selection) : allSpreadNames sels ⊆ allReferences sels := by
  induction sels using selections_induction with
  | nil => exact List.Subset.refl _
  | field f rest _ ih => exact List.subset_append_of_subset_right _ ih
  | typeCondition t ts inner rest ihi ih =>
    exact List.append_subset.mpr ⟨List.subset_append_of_subset_left _ ihi, List.subset_append_of_subset_right _ ih⟩
  | spread name rest ih => exact List.cons_subset_cons name ih
  | guarded flag inverted ts inner rest ihi ih =>
    exact List.append_subset.mpr ⟨List.subset_append_of_subset_left _ ihi, List.subset_append_of_subset_right _ ih⟩

section
variable {c : Context}

/-- References that only lead to a smaller rank are acyclic. -/
theorem Context.referencesAcyclic_of_rank (rank : String → Nat)
    (h : ∀ e ∈ c.fragments, ∀ b ∈ allReferences e.2.set.selections, rank b < rank e.1) : c.ReferencesAcyclic := by
  refine not_transGen_of_rank rank fun a b hrefers => ?_
  unfold Context.Refers Context.references at hrefers
  split at hrefers
  · rename_i f hf
    exact h _ (Entries.mem_of_get? hf) b hrefers
  · cases hrefers

/-- Where references are acyclic, so are spreads outside field sub-selections. -/
theorem Context.ReferencesAcyclic.acyclic (h : c.ReferencesAcyclic) : c.Acyclic := by
  have hrefers : ∀ {a b}, c.Spreads a b → c.Refers a b := by
    rintro a b ⟨f, hf, hb⟩
    rw [Context.Refers, Context.references_of_get? hf]
    exact allSpreadNames_subset_references f.set.selections hb
  intro name hspreads
  exact h name (hspreads.lift id fun _ _ => hrefers)

theorem Context.mem_sets_of_get? {name : String} {f : Fragment} (h : c.fragments.get? name = some f) : f.set ∈ c.sets :=
  List.mem_append_right _ (List.mem_map_of_mem (List.mem_map_of_mem (Entries.mem_of_get? h)))

/-- The sets of operations and fragments are at most as deep as the context. -/
theorem Context.depth_le {set : SelectionSet} (h : set ∈ c.sets) : set.depth ≤ c.depth := by
  have hfold : ∀ (ds : List Nat) (start : Nat), start ≤ ds.foldl max start ∧ ∀ d ∈ ds, d ≤ ds.foldl max start := by
    intro ds
    induction ds with
    | nil => simp
    | cons d rest ih =>
      intro start
      obtain ⟨hstart, hrest⟩ := ih (max start d)
      rw [List.foldl_cons]
      refine ⟨by omega, fun e he => ?_⟩
      rcases List.mem_cons.mp he with rfl | he
      · omega
      · exact hrest e he
  exact (hfold _ 0).2 _ (List.mem_map_of_mem h)

/-- Every fragment on the way adds at most the depth of the context. -/
theorem Context.rank_le (c : Context) (steps : Nat) : ∀ name, c.rank steps name ≤ steps * c.depth := by
  induction steps with
  | zero => exact fun _ => Nat.zero_le _
  | succ steps ih =>
    intro name
    rw [Context.rank]
    split
    · rename_i f hf
      have hdepth : f.set.depth ≤ c.depth := c.depth_le (Context.mem_sets_of_get? hf)
      have hle := nestingOfAll_le f.set.selections fun n _ => ih n
      rw [SelectionSetOf.depth] at hdepth
      rw [Nat.succ_mul]
      omega
    · exact Nat.zero_le _

/-- Where references are acyclic, following them through as many fragments as there are comes to rest. -/
theorem Context.rank_eq (acyclic : c.ReferencesAcyclic) (name : String) :
    ∀ steps, c.fragments.length ≤ steps → c.rank steps name = c.rank c.fragments.length name := by
  have hundeclared : ∀ {name}, name ∉ c.fragments.names → ∀ steps, c.rank steps name = 0 := by
    intro name hname steps
    cases steps with
    | zero => rfl
    | succ steps =>
      rw [Context.rank]
      split
      · rename_i f hf
        exact absurd (Entries.mem_names_of_get? hf) hname
      · rfl
  by_cases hname : name ∈ c.fragments.names
  · have hlength : c.fragments.names.length = c.fragments.length := by simp [Entries.names]
    rw [← hlength]
    refine induction_of_acyclic acyclic c.fragments.names
      (motive := fun fewer name => ∀ steps, fewer ≤ steps → c.rank steps name = c.rank fewer name) ?_ name hname
    intro fewer name _ ih steps hle
    obtain ⟨steps, rfl⟩ : ∃ n, steps = n + 1 := ⟨steps - 1, by omega⟩
    rw [Context.rank, Context.rank]
    split
    · rename_i f hf
      refine nestingOfAll_congr f.set.selections fun b hb => ?_
      by_cases hdeclared : b ∈ c.fragments.names
      · have hrefers : c.Refers name b := by rwa [Context.Refers, Context.references_of_get? hf]
        exact ih b hdeclared hrefers steps (by omega)
      · rw [hundeclared hdeclared, hundeclared hdeclared]
    · rfl
  · intro steps _
    rw [hundeclared hname, hundeclared hname]

/-- Where references are acyclic, a fragment nests as deep as its rank. -/
theorem Context.nesting_fragment (acyclic : c.ReferencesAcyclic) {name : String} {f : Fragment}
    (h : c.fragments.get? name = some f) : c.nesting f.set = c.rank c.fragments.length name := by
  rw [← Context.rank_eq acyclic name (c.fragments.length + 1) (Nat.le_succ _), Context.rank, h]
  rfl

/-- The sets of operations and fragments nest at most as deep as the context is, once for every fragment and once more. -/
theorem Context.nesting_le {set : SelectionSet} (h : set ∈ c.sets) : c.nesting set ≤ (c.fragments.length + 1) * c.depth := by
  have hdepth := c.depth_le h
  have hle := nestingOfAll_le set.selections fun n _ => c.rank_le c.fragments.length n
  rw [SelectionSetOf.depth] at hdepth
  rw [Context.nesting, Nat.succ_mul]
  omega

/-- What is selected of a field on offer nests less deep than the selections that offer the field. -/
theorem Context.Offers.nesting_lt (acyclic : c.ReferencesAcyclic) {f : Field} {sub : SelectionSet}
    (hsub : f.selectionSet = some sub) {sels : List Selection} (h : c.Offers f sels) :
    c.nesting sub < nestingOfAll (c.rank c.fragments.length) sels := by
  induction h with
  | here hf =>
    have hle := nesting_le_of_mem (c.rank c.fragments.length) hf
    rw [nesting_field hsub] at hle
    exact hle
  | condition hx _ ih =>
    have hle := nesting_le_of_mem (c.rank c.fragments.length) hx
    rw [Selection.nesting] at hle
    omega
  | spread hx hfragment _ ih =>
    have hle := nesting_le_of_mem (c.rank c.fragments.length) hx
    rw [Selection.nesting, ← Context.nesting_fragment acyclic hfragment] at hle
    exact Nat.lt_of_lt_of_le ih hle
  | guarded hx _ ih =>
    have hle := nesting_le_of_mem (c.rank c.fragments.length) hx
    rw [Selection.nesting] at hle
    omega

end

end TypedOperations
