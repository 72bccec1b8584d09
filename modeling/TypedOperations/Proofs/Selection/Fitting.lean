import TypedOperations.Proofs.Selection.Passes
import TypedOperations.Proofs.Selection.Resolving

/-!
# Possible types of resolved sets

The sets of a resolved document have the possible types that the schema gives them: a narrowed set has those of the set around
it that its condition allows, a guarded one has all of them, and a field starts anew with those of its type (`AllFit`). This
holds of every set that a context holds (`Context.Holds.fits`), so that the passes keep what applies to them.
-/

namespace TypedOperations

mutual

/-- In a set over the types `possible`, the sets of the selection have the possible types that the schema gives them. -/
def Selection.Fits (s : Schema) (possible : List String) : Selection → Prop
  | .field ⟨_, _, _, _, _, _, none, _⟩ => True
  | .field ⟨_, _, t, _, _, _, some ⟨ts, sels⟩, _⟩ => ts = s.possibleTypes t.base.name ∧ AllFit s ts sels
  | .typeCondition t ⟨ts, sels⟩ => ts = possible.filter (s.possibleTypes t.name).contains ∧ AllFit s ts sels
  | .spread _ => True
  | .guarded _ _ ⟨ts, sels⟩ => ts = possible ∧ AllFit s ts sels

/-- In a set over the types `possible`, the sets of the selections have the possible types that the schema gives them. -/
def AllFit (s : Schema) (possible : List String) : List Selection → Prop
  | [] => True
  | x :: rest => x.Fits s possible ∧ AllFit s possible rest

end

/-- A set of a context: that of an operation or fragment, or one that stands in such a set. -/
inductive Context.Holds (c : Context) : SelectionSet → Prop where
  | operation {name : String} {o : Operation} : c.operations.get? name = some o → c.Holds o.set
  | fragment {name : String} {f : Fragment} : c.fragments.get? name = some f → c.Holds f.set
  | condition {set inner : SelectionSet} {t : NamedType} :
      c.Holds set → .typeCondition t inner ∈ set.selections → c.Holds inner
  | guarded {set inner : SelectionSet} {flag : String} {inverted : Bool} :
      c.Holds set → .guarded flag inverted inner ∈ set.selections → c.Holds inner
  | field {set inner : SelectionSet} {f : Field} :
      c.Holds set → .field f ∈ set.selections → f.selectionSet = some inner → c.Holds inner

variable {s : Schema} {possible : List String} {sels : List Selection}

theorem allFit_append {a b : List Selection} :
    AllFit s possible (a ++ b) ↔ AllFit s possible a ∧ AllFit s possible b := by
  induction a with
  | nil => simp [AllFit]
  | cons x rest ih => simp [AllFit, ih, and_assoc]

theorem AllFit.of_mem (h : AllFit s possible sels) {x : Selection} (hx : x ∈ sels) : x.Fits s possible := by
  induction sels with
  | nil => simp at hx
  | cons y rest ih =>
    rcases List.mem_cons.mp hx with rfl | hx
    · exact h.1
    · exact ih h.2 hx

/-- Guards around selections have the possible types of the set they stand in. -/
theorem AllFit.guardAll (h : AllFit s possible sels) (gs : List Resolve.Guard) :
    AllFit s possible (Resolve.guardAll possible gs sels) := by
  induction gs with
  | nil => exact h
  | cons g gs ih => exact ⟨⟨rfl, ih⟩, trivial⟩

/-- A resolved type reference has the same named type. -/
theorem base_resolve (t : TypeRef String) : (s.resolve t).base.name = t.base := by
  induction t with
  | named a r => rfl
  | list item r ih => exact ih

/-- What written selections become fits the schema. -/
theorem fits_of_resolves {parent : Schema.TypeDef} {xs : List Language.Selection}
    (h : Resolve.Resolves s parent possible xs sels) : AllFit s possible sels := by
  induction h with
  | nil => trivial
  | dropped _ _ ih => exact ih
  | leaf _ _ _ _ _ ih =>
    refine allFit_append.mpr ⟨AllFit.guardAll ?_ _, ih⟩
    exact ⟨trivial, trivial⟩
  | composite _ _ _ _ _ _ ihi ih =>
    refine allFit_append.mpr ⟨AllFit.guardAll ?_ _, ih⟩
    exact ⟨⟨congrArg s.possibleTypes (base_resolve _).symm, ihi⟩, trivial⟩
  | spread _ _ ih =>
    refine allFit_append.mpr ⟨AllFit.guardAll ?_ _, ih⟩
    exact ⟨trivial, trivial⟩
  | splice _ _ _ ihi ih => exact allFit_append.mpr ⟨ihi.guardAll _, ih⟩
  | narrow _ ht _ _ ihi ih =>
    have hname := (Resolve.compositeType_ok ht).2.1
    refine allFit_append.mpr ⟨AllFit.guardAll ?_ _, ih⟩
    exact ⟨⟨by simp only [Schema.TypeDef.ref, hname], ihi⟩, trivial⟩

/-- Guards in selections that fit allow all types of the sets they stand in. -/
theorem AllFit.guardsCover (sels : List Selection) : ∀ {possible}, AllFit s possible sels → AllGuardsCover possible sels := by
  induction sels using selections_induction with
  | nil => exact fun _ => trivial
  | field f rest _ ih => exact fun h => ⟨trivial, ih h.2⟩
  | typeCondition t ts sels rest ihs ih => exact fun h => ⟨ihs h.1.2, ih h.2⟩
  | spread name rest ih => exact fun h => ⟨trivial, ih h.2⟩
  | guarded flag inverted ts sels rest ihs ih =>
    exact fun h => ⟨⟨h.1.1 ▸ List.Subset.refl _, ihs h.1.2⟩, ih h.2⟩

section
variable {options : Options} {d : Language.Document} {c : Context}

/-- The fragments of a resolved document have the possible types of their sets, and fit the schema. -/
theorem Context.fragment_fits (hc : Context.ofDocument s options d = .ok c) {name : String} {f : Fragment}
    (hf : c.fragments.get? name = some f) :
    f.set.possibleTypes = f.possibleTypes ∧ AllFit s f.set.possibleTypes f.set.selections := by
  obtain ⟨_, -, hfr⟩ := Context.fragment_of_ofDocument hc hf
  obtain ⟨-, -, hset, _, -, -, hres⟩ := Resolve.fragment_ok hfr
  exact ⟨hset, fits_of_resolves hres⟩

theorem Context.fragmentsCover_of_ofDocument (hc : Context.ofDocument s options d = .ok c) : c.FragmentsCover :=
  fun _ _ hf => ⟨(Context.fragment_fits hc hf).1, AllFit.guardsCover _ (Context.fragment_fits hc hf).2⟩

/-- Every set that the context of a document holds fits the schema. -/
theorem Context.Holds.fits (hc : Context.ofDocument s options d = .ok c) {set : SelectionSet} (h : c.Holds set) :
    AllFit s set.possibleTypes set.selections := by
  induction h with
  | operation ho =>
    obtain ⟨_, -, hor⟩ := Context.operation_of_ofDocument hc ho
    obtain ⟨-, _, -, hres⟩ := Resolve.operation_ok hor
    exact fits_of_resolves hres
  | fragment hf => exact (Context.fragment_fits hc hf).2
  | condition _ hx ih => exact (ih.of_mem hx).2
  | guarded _ hx ih => exact (ih.of_mem hx).2
  | @field _ inner f _ hx hset ih =>
    have hfit := ih.of_mem hx
    obtain ⟨_, _, _, _, _, _, set, _⟩ := f
    cases hset
    exact hfit.2

end

end TypedOperations
