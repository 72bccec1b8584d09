import TypedOperations.Proofs.Selection.Fields
import TypedOperations.Proofs.Selection.Fitting

/-!
# Resolved sets are well formed

What later passes rely on at every level of a resolved document: a narrowed set has those types of the set around it that its
condition allows, a guarded set has all of them, and a field starts anew with the possible types of its own type, if that is
composite, and has no set otherwise (`WellFormed`). Which types a set has is passed down while selections are resolved, so that
part follows a set to where it stands (`Context.Holds.fits`). Whether a field has a set is decided where the field is made, so
that part is said of all fields at any depth (`made_of_resolves`).
-/

namespace TypedOperations

/-- What stands directly in a set is as resolving makes it. -/
structure SelectionSetOf.WellFormed (s : Schema) (set : SelectionSet) : Prop where
  /-- A type condition leaves the types around it that are possible types of its own type, in the order around it. -/
  condition : ∀ t inner, .typeCondition t inner ∈ set.selections →
    inner.possibleTypes = set.possibleTypes.filter fun type => type ∈ s.possibleTypes t.name
  /-- A guard leaves the types around it as they are. -/
  guarded : ∀ flag inverted inner, .guarded flag inverted inner ∈ set.selections →
    inner.possibleTypes = set.possibleTypes
  /-- The set of a field has the possible types of the named type of the field. -/
  field : ∀ f inner, .field f ∈ set.selections → f.selectionSet = some inner →
    inner.possibleTypes = s.possibleTypes f.type.base.name
  /-- A field has a set exactly if its named type is composite in the schema. -/
  composite : ∀ f, .field f ∈ set.selections → (f.selectionSet.isSome = true ↔ (s.kindOf f.type.base.name).isComposite = true)

/-- The field has a set exactly if its named type, as the schema declares it, is composite. -/
def FieldOf.Made (s : Schema) (f : Field) : Prop :=
  f.type.base = s.named f.type.base.name ∧ f.selectionSet.isSome = f.type.base.kind.isComposite

section
variable {s : Schema} {parent : Schema.TypeDef} {possible : List String} {xs : List Language.Selection}
  {sels : List Selection}

/-- A resolved type reference has the named type that the schema declares. -/
theorem base_resolve_eq_named (t : TypeRef String) : (s.resolve t).base = s.named t.base := by
  induction t with
  | named a r => rfl
  | list item r ih => exact ih

/-- A field made from its parts has a set exactly if its type is composite, if the parts are so. -/
theorem made_makeField {f : Schema.FieldDef} {label : Option String} {args : List Argument} {set : Option SelectionSet}
    {made : Field} (hmade : Resolve.makeField s f label args set = .field made)
    (hset : set.isSome = (s.kindOf f.type.base).isComposite) : made.Made s := by
  cases hmade
  have hbase : (s.resolve f.type).base = s.named f.type.base := base_resolve_eq_named f.type
  refine ⟨?_, ?_⟩
  · simp only [hbase, Schema.named]
  · simp only [hbase, Schema.named, hset]

/-- The fields that written selections become, at any depth, have a set exactly if their types are composite. -/
theorem made_of_resolves (h : Resolve.Resolves s parent possible xs sels) : ∀ f ∈ allFields sels, f.Made s := by
  induction h with
  | nil => exact fun f hf => absurd hf List.not_mem_nil
  | dropped _ _ ih => exact ih
  | leaf _ _ hkind _ _ ih =>
    intro f hf
    rcases mem_allFields_guarded.mp hf with hf | hf
    · rw [Resolve.makeField, allFields_singleton] at hf
      cases List.mem_singleton.mp hf
      exact made_makeField rfl (by simp [hkind])
    · exact ih f hf
  | composite _ _ ht _ _ _ ihi ih =>
    obtain ⟨ht, -, hkind⟩ := Resolve.compositeType_ok ht
    intro f hf
    rcases mem_allFields_guarded.mp hf with hf | hf
    · rw [Resolve.makeField, allFields_singleton] at hf
      rcases List.mem_cons.mp hf with rfl | hf
      · exact made_makeField rfl (by simp [Schema.kindOf, ht, hkind])
      · exact ihi f hf
    · exact ih f hf
  | spread _ _ ih =>
    intro f hf
    rw [allFields_append, allFields_guardAll] at hf
    exact ih f hf
  | splice _ _ _ ihi ih => exact fun f hf => (mem_allFields_guarded.mp hf).elim (ihi f) (ih f)
  | narrow _ _ _ _ ihi ih =>
    intro f hf
    rcases mem_allFields_guarded.mp hf with hf | hf
    · rw [allFields, Selection.fields, allFields, List.append_nil] at hf
      exact ihi f hf
    · exact ih f hf

variable {options : Options} {d : Language.Document} {c : Context}

/-- What holds of all fields of operations and fragments, at any depth, holds of all fields in a set of the context. -/
theorem Context.Holds.fields {P : Field → Prop}
    (hoperation : ∀ {name o}, c.operations.get? name = some o → ∀ f ∈ allFields o.set.selections, P f)
    (hfragment : ∀ {name g}, c.fragments.get? name = some g → ∀ f ∈ allFields g.set.selections, P f)
    {set : SelectionSet} (h : c.Holds set) : ∀ f ∈ allFields set.selections, P f := by
  induction h with
  | operation ho => exact hoperation ho
  | fragment hf => exact hfragment hf
  | condition _ hx ih => exact fun f hf => ih f (fields_subset_of_mem hx hf)
  | guarded _ hx ih => exact fun f hf => ih f (fields_subset_of_mem hx hf)
  | field _ hx hset ih => exact fun f hf => ih f (fields_subset_of_mem hx (allFields_subset_fields hset hf))

/-- The fields in a set that the context of a document holds, at any depth, have a set exactly if their types are composite. -/
theorem Context.Holds.made (hc : Context.ofDocument s options d = .ok c) {set : SelectionSet} (h : c.Holds set) :
    ∀ f ∈ allFields set.selections, f.Made s := by
  refine h.fields ?_ ?_
  · intro name o ho
    obtain ⟨_, -, hor⟩ := Context.operation_of_ofDocument hc ho
    obtain ⟨-, _, -, hres⟩ := Resolve.operation_ok hor
    exact made_of_resolves hres
  · intro name g hg
    obtain ⟨_, -, hfr⟩ := Context.fragment_of_ofDocument hc hg
    obtain ⟨-, -, -, _, -, -, hres⟩ := Resolve.fragment_ok hfr
    exact made_of_resolves hres

/-- Every set that the context of a document holds is well formed. -/
theorem Context.Holds.wellFormed (hc : Context.ofDocument s options d = .ok c) {set : SelectionSet} (h : c.Holds set) :
    set.WellFormed s := by
  have hfit := h.fits hc
  refine ⟨?_, ?_, ?_, ?_⟩
  · intro t inner hx
    rw [(hfit.of_mem hx).1]
    exact List.filter_congr fun type _ => List.contains_eq_mem type _
  · intro flag inverted inner hx
    exact (hfit.of_mem hx).1
  · intro f inner hx hset
    have hfield := hfit.of_mem hx
    obtain ⟨_, _, _, _, _, _, sub, _⟩ := f
    cases hset
    exact hfield.1
  · intro f hx
    obtain ⟨hbase, hset⟩ := h.made hc f (fields_subset_of_mem hx (mem_fields_self f))
    rw [hset, hbase]
    rfl

/-- A fragment of a resolved document has the types of its set, which are the possible types of its type condition. -/
theorem Context.fragment_types (hc : Context.ofDocument s options d = .ok c) {name : String} {f : Fragment}
    (hf : c.fragments.get? name = some f) :
    f.possibleTypes = f.set.possibleTypes ∧ f.possibleTypes = s.possibleTypes f.condition.name := by
  obtain ⟨written, -, hfr⟩ := Context.fragment_of_ofDocument hc hf
  obtain ⟨-, htypes, hset, t, ht, hcondition, -⟩ := Resolve.fragment_ok hfr
  have hname : f.condition.name = written.condition := by
    rw [hcondition]
    exact (Resolve.compositeType_ok ht).2.1
  exact ⟨hset.symm, by rw [htypes, hname]⟩

end

/-- Resolved documents are well formed. Take any schema and any document that can be resolved against it. Whatever set stands in
an operation or fragment, at any depth: a type condition in it has exactly those of its types that are possible types of the
condition, in its order; a guard in it has its types; a field in it has a set exactly if the named type of the field is
composite, and that set has the possible types of the named type. And every fragment has the types of its set, which are the
possible types of the type that the fragment is on. -/
theorem resolved_wellFormed {s : Schema} {options : Options} {d : Language.Document} {c : Context}
    (resolved : Context.ofDocument s options d = .ok c) :
    (∀ set, c.Holds set → set.WellFormed s) ∧
      ∀ name f, c.fragments.get? name = some f →
        f.possibleTypes = f.set.possibleTypes ∧ f.possibleTypes = s.possibleTypes f.condition.name :=
  ⟨fun _ held => held.wellFormed resolved, fun _ _ hf => Context.fragment_types resolved hf⟩

/-- What is asked of a pet, inside the operation that asks. -/
theorem petAsked_held : petContext.Holds petAsked := by
  have hoperation := @Context.Holds.operation petContext "Pet" _ rfl
  exact .field hoperation List.mem_cons_self rfl

theorem resolved_wellFormed_pet :
    Context.ofDocument petSchema default petDocument = .ok petContext ∧ petContext.Holds petAsked ∧
      petAsked.WellFormed petSchema ∧
      ∃ f, petContext.fragments.get? "Short" = some f ∧ f.possibleTypes = f.set.possibleTypes ∧
        f.possibleTypes = petSchema.possibleTypes f.condition.name := by
  obtain ⟨hsets, hfragments⟩ := resolved_wellFormed petContext_eq
  exact ⟨petContext_eq, petAsked_held, hsets petAsked petAsked_held, _, rfl, hfragments "Short" _ rfl⟩

end TypedOperations
