import TypedOperations.Proofs.Selection.Spreading
import TypedOperations.Selection.Resolve

/-!
# Walking selections

What a reader of selections meets, said without any rewriting of them: the fields in order, with the sets of type conditions,
spread fragments and guards entered where a visit says so. The same walk serves two readings. One collects the fields that
apply to all of some object types, whatever guards them; the other executes the selections on one object type, with a value
for every variable.
-/

namespace TypedOperations

open Resolve (Guard)

/-- How a walk decides which sets it enters: a narrowed set must apply to all of `types`, a guarded one must be admitted. -/
structure Visit where
  types : List String
  admits : Guard → Bool

/-- The visit that collects what applies to all of the types. It enters every guarded set. -/
def Visit.collecting (types : List String) : Visit := ⟨types, fun _ => true⟩

/-- The visit that executes on an object type. It enters a guarded set if the value of the variable asks for it. -/
def Visit.executing (values : String → Bool) (type : String) : Visit := ⟨[type], fun g => values g.flag != g.inverted⟩

/-- The visit that finds what applies to all of the types whatever the variables are. It enters no guarded set. -/
def Visit.unguarded (types : List String) : Visit := ⟨types, fun _ => false⟩

/-- The visit enters guarded sets, at least for some guard. -/
def Visit.EntersGuards (v : Visit) : Prop := ∃ g, v.admits g = true

/-- A field where a walk meets it, inside guards, the outermost first. -/
structure Occurrence where
  field : Field
  guards : List Guard

namespace Occurrence

/-- The key that the occurrence has in a response. -/
def key (o : Occurrence) : String := o.field.responseKey

/-- The occurrence inside one more guard. -/
def under (g : Guard) (o : Occurrence) : Occurrence := ⟨o.field, g :: o.guards⟩

/-- The occurrence may be missing: it is guarded, or its field is marked already. -/
def conditional (o : Occurrence) : Bool := !o.guards.isEmpty || o.field.conditional

@[simp] theorem under_field (g : Guard) (o : Occurrence) : (o.under g).field = o.field := rfl

@[simp] theorem under_guards (g : Guard) (o : Occurrence) : (o.under g).guards = g :: o.guards := rfl

end Occurrence

/-- A visit meets exactly these occurrences, in this order. A type condition or a spread is entered if all types of the visit
are among its possible types, a guarded set if the visit admits its guard. A spread of an undeclared fragment is passed. -/
inductive Context.Walks (c : Context) (v : Visit) : List Selection → List Occurrence → Prop where
  | nil : c.Walks v [] []
  | field {rest : List Selection} {os : List Occurrence} (f : Field) :
      c.Walks v rest os → c.Walks v (.field f :: rest) (⟨f, []⟩ :: os)
  | enterCondition {t : NamedType} {possible : List String} {sels rest : List Selection} {inner os : List Occurrence} :
      v.types ⊆ possible → c.Walks v sels inner → c.Walks v rest os →
        c.Walks v (.typeCondition t ⟨possible, sels⟩ :: rest) (inner ++ os)
  | passCondition {t : NamedType} {possible : List String} {sels rest : List Selection} {os : List Occurrence} :
      ¬v.types ⊆ possible → c.Walks v rest os → c.Walks v (.typeCondition t ⟨possible, sels⟩ :: rest) os
  | enterSpread {name : String} {f : Fragment} {rest : List Selection} {inner os : List Occurrence} :
      c.fragments.get? name = some f → v.types ⊆ f.possibleTypes → c.Walks v f.set.selections inner → c.Walks v rest os →
        c.Walks v (.spread name :: rest) (inner ++ os)
  | passSpread {name : String} {rest : List Selection} {os : List Occurrence} :
      (∀ f, c.fragments.get? name = some f → ¬v.types ⊆ f.possibleTypes) → c.Walks v rest os →
        c.Walks v (.spread name :: rest) os
  | enterGuard {flag : String} {inverted : Bool} {possible : List String} {sels rest : List Selection}
      {inner os : List Occurrence} :
      v.admits ⟨flag, inverted⟩ = true → c.Walks v sels inner → c.Walks v rest os →
        c.Walks v (.guarded flag inverted ⟨possible, sels⟩ :: rest) (inner.map (·.under ⟨flag, inverted⟩) ++ os)
  | passGuard {flag : String} {inverted : Bool} {possible : List String} {sels rest : List Selection}
      {os : List Occurrence} :
      v.admits ⟨flag, inverted⟩ = false → c.Walks v rest os →
        c.Walks v (.guarded flag inverted ⟨possible, sels⟩ :: rest) os

namespace Context

variable {c : Context} {v v' : Visit} {sels sels' : List Selection} {os os' : List Occurrence}

/-! ## One walk, and only one -/

/-- A visit meets one list of occurrences. -/
theorem Walks.unique (h : c.Walks v sels os) (h' : c.Walks v sels os') : os = os' := by
  induction h generalizing os' with
  | nil => cases h'; rfl
  | field f _ ih =>
    cases h' with
    | field _ h' => rw [ih h']
  | enterCondition he _ _ ihi ih =>
    cases h' with
    | enterCondition _ hi h' => rw [ihi hi, ih h']
    | passCondition hp _ => exact absurd he hp
  | passCondition hp _ ih =>
    cases h' with
    | enterCondition he _ _ => exact absurd he hp
    | passCondition _ h' => exact ih h'
  | enterSpread hf he _ _ ihi ih =>
    cases h' with
    | enterSpread hf' _ hi h' =>
      rw [hf] at hf'
      cases hf'
      rw [ihi hi, ih h']
    | passSpread hp _ => exact absurd he (hp _ hf)
  | passSpread hp _ ih =>
    cases h' with
    | enterSpread hf he _ _ => exact absurd he (hp _ hf)
    | passSpread _ h' => exact ih h'
  | enterGuard ha _ _ ihi ih =>
    cases h' with
    | enterGuard _ hi h' => rw [ihi hi, ih h']
    | passGuard hp _ => rw [ha] at hp; cases hp
  | passGuard hp _ ih =>
    cases h' with
    | enterGuard ha _ _ => rw [hp] at ha; cases ha
    | passGuard _ h' => exact ih h'

/-- Selections can be walked when the fragments that they spread can. -/
theorem exists_walks_of_spreads (c : Context) (v : Visit) (sels : List Selection) :
    (∀ name ∈ allSpreadNames sels, ∀ f, c.fragments.get? name = some f → ∃ os, c.Walks v f.set.selections os) →
      ∃ os, c.Walks v sels os := by
  induction sels using selections_induction with
  | nil => exact fun _ => ⟨[], .nil⟩
  | field f rest _ ih =>
    intro h
    obtain ⟨os, hos⟩ := ih (fun n hn => h n (by simp [allSpreadNames, hn]))
    exact ⟨_, .field f hos⟩
  | typeCondition t possible sels rest ihs ih =>
    intro h
    obtain ⟨inner, hi⟩ := ihs (fun n hn => h n (by simp [allSpreadNames, Selection.spreadNames, hn]))
    obtain ⟨os, hos⟩ := ih (fun n hn => h n (by simp [allSpreadNames, hn]))
    by_cases he : v.types ⊆ possible
    · exact ⟨_, .enterCondition he hi hos⟩
    · exact ⟨_, .passCondition he hos⟩
  | spread name rest ih =>
    intro h
    obtain ⟨os, hos⟩ := ih (fun n hn => h n (by simp [allSpreadNames, hn]))
    by_cases he : ∃ f, c.fragments.get? name = some f ∧ v.types ⊆ f.possibleTypes
    · obtain ⟨f, hf, he⟩ := he
      obtain ⟨inner, hi⟩ := h name (by simp [allSpreadNames, Selection.spreadNames]) f hf
      exact ⟨_, .enterSpread hf he hi hos⟩
    · exact ⟨_, .passSpread (fun f hf he' => he ⟨f, hf, he'⟩) hos⟩
  | guarded flag inverted possible sels rest ihs ih =>
    intro h
    obtain ⟨inner, hi⟩ := ihs (fun n hn => h n (by simp [allSpreadNames, Selection.spreadNames, hn]))
    obtain ⟨os, hos⟩ := ih (fun n hn => h n (by simp [allSpreadNames, hn]))
    cases ha : v.admits ⟨flag, inverted⟩ with
    | true => exact ⟨_, .enterGuard ha hi hos⟩
    | false => exact ⟨_, .passGuard ha hos⟩

/-- Every visit of a context with acyclic spreads comes to an end. -/
theorem Acyclic.exists_walks (h : c.Acyclic) (v : Visit) (sels : List Selection) : ∃ os, c.Walks v sels os := by
  apply exists_walks_of_spreads
  intro name _ f hf
  refine h.induction (motive := fun _ name => ∀ f, c.fragments.get? name = some f → ∃ os, c.Walks v f.set.selections os)
    ?_ name f hf
  intro _ name ih f hf
  exact exists_walks_of_spreads c v f.set.selections (ih f hf)

/-! ## Parts of a walk -/

/-- Selections after one another are walked one after the other. -/
theorem Walks.append (h : c.Walks v sels os) (h' : c.Walks v sels' os') : c.Walks v (sels ++ sels') (os ++ os') := by
  induction h with
  | nil => exact h'
  | field f _ ih => exact .field f ih
  | enterCondition he hi _ _ ih =>
    rw [List.append_assoc]
    exact .enterCondition he hi ih
  | passCondition hp _ ih => exact .passCondition hp ih
  | enterSpread hf he hi _ _ ih =>
    rw [List.append_assoc]
    exact .enterSpread hf he hi ih
  | passSpread hp _ ih => exact .passSpread hp ih
  | enterGuard ha hi _ _ ih =>
    rw [List.append_assoc]
    exact .enterGuard ha hi ih
  | passGuard hp _ ih => exact .passGuard hp ih

/-- The walk of a list is that of its first selection, followed by that of the others. -/
theorem Walks.uncons {x : Selection} (h : c.Walks v (x :: sels) os) :
    ∃ first others, os = first ++ others ∧ c.Walks v [x] first ∧ c.Walks v sels others := by
  cases h with
  | field f h => exact ⟨[⟨f, []⟩], _, rfl, .field f .nil, h⟩
  | enterCondition he hi h => exact ⟨_, _, rfl, by simpa using Walks.enterCondition he hi .nil, h⟩
  | passCondition hp h => exact ⟨[], _, rfl, .passCondition hp .nil, h⟩
  | enterSpread hf he hi h => exact ⟨_, _, rfl, by simpa using Walks.enterSpread hf he hi .nil, h⟩
  | passSpread hp h => exact ⟨[], _, rfl, .passSpread hp .nil, h⟩
  | enterGuard ha hi h => exact ⟨_, _, rfl, by simpa using Walks.enterGuard ha hi .nil, h⟩
  | passGuard hp h => exact ⟨[], _, rfl, .passGuard hp .nil, h⟩

/-- The walk of an appended list splits. -/
theorem Walks.unappend (h : c.Walks v (sels ++ sels') os) :
    ∃ first others, os = first ++ others ∧ c.Walks v sels first ∧ c.Walks v sels' others := by
  induction sels generalizing os with
  | nil => exact ⟨[], os, rfl, .nil, h⟩
  | cons x rest ih =>
    obtain ⟨first, others, rfl, hx, hrest⟩ := h.uncons
    obtain ⟨middle, last, rfl, hm, hl⟩ := ih hrest
    exact ⟨first ++ middle, last, by rw [List.append_assoc], hx.append hm, hl⟩

/-- A walk meets what it meets in one of the selections. -/
theorem Walks.mem_iff (h : c.Walks v sels os) {o : Occurrence} :
    o ∈ os ↔ ∃ x ∈ sels, ∃ inner, c.Walks v [x] inner ∧ o ∈ inner := by
  induction sels generalizing os with
  | nil =>
    cases h
    simp
  | cons x rest ih =>
    obtain ⟨first, others, rfl, hx, hrest⟩ := h.uncons
    rw [List.mem_append, ih hrest]
    constructor
    · rintro (ho | ⟨y, hy, inner, hi, ho⟩)
      · exact ⟨x, List.mem_cons_self, first, hx, ho⟩
      · exact ⟨y, List.mem_cons_of_mem x hy, inner, hi, ho⟩
    · rintro ⟨y, hy, inner, hi, ho⟩
      rcases List.mem_cons.mp hy with rfl | hy
      · rw [hx.unique hi]
        exact Or.inl ho
      · exact Or.inr ⟨y, hy, inner, hi, ho⟩

/-! ## Two visits compared -/

/-- A visit for fewer types meets every occurrence that another one meets and whose guards it admits. -/
theorem Walks.mem_of_admits (h : c.Walks v sels os) (h' : c.Walks v' sels os') (htypes : v'.types ⊆ v.types) :
    ∀ o ∈ os, (∀ g ∈ o.guards, v'.admits g = true) → o ∈ os' := by
  induction h generalizing os' with
  | nil =>
    intro o ho
    simp at ho
  | field f _ ih =>
    intro o ho hg
    cases h' with
    | field _ h' =>
      rcases List.mem_cons.mp ho with rfl | ho
      · exact List.mem_cons_self
      · exact List.mem_cons_of_mem _ (ih h' o ho hg)
  | enterCondition he _ _ ihi ih =>
    intro o ho hg
    cases h' with
    | enterCondition _ hi h' =>
      rcases List.mem_append.mp ho with ho | ho
      · exact List.mem_append_left _ (ihi hi o ho hg)
      · exact List.mem_append_right _ (ih h' o ho hg)
    | passCondition hp _ => exact absurd (List.Subset.trans htypes he) hp
  | passCondition _ _ ih =>
    intro o ho hg
    cases h' with
    | enterCondition _ _ h' => exact List.mem_append_right _ (ih h' o ho hg)
    | passCondition _ h' => exact ih h' o ho hg
  | enterSpread hf he _ _ ihi ih =>
    intro o ho hg
    cases h' with
    | enterSpread hf' _ hi h' =>
      rw [hf] at hf'
      cases hf'
      rcases List.mem_append.mp ho with ho | ho
      · exact List.mem_append_left _ (ihi hi o ho hg)
      · exact List.mem_append_right _ (ih h' o ho hg)
    | passSpread hp _ => exact absurd (List.Subset.trans htypes he) (hp _ hf)
  | passSpread _ _ ih =>
    intro o ho hg
    cases h' with
    | enterSpread _ _ _ h' => exact List.mem_append_right _ (ih h' o ho hg)
    | passSpread _ h' => exact ih h' o ho hg
  | enterGuard _ _ _ ihi ih =>
    intro o ho hg
    rcases List.mem_append.mp ho with ho | ho
    · obtain ⟨p, hpi, rfl⟩ := List.mem_map.mp ho
      cases h' with
      | enterGuard _ hi h' =>
        have hmem := ihi hi p hpi (fun g hgp => hg g (List.mem_cons_of_mem _ hgp))
        exact List.mem_append_left _ (List.mem_map_of_mem hmem)
      | passGuard hp _ =>
        have ha := hg _ List.mem_cons_self
        rw [hp] at ha
        cases ha
    · cases h' with
      | enterGuard _ _ h' => exact List.mem_append_right _ (ih h' o ho hg)
      | passGuard _ h' => exact ih h' o ho hg
  | passGuard _ _ ih =>
    intro o ho hg
    cases h' with
    | enterGuard _ _ h' => exact List.mem_append_right _ (ih h' o ho hg)
    | passGuard _ h' => exact ih h' o ho hg

end Context

end TypedOperations
