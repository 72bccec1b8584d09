import TypedOperations.Proofs.Selection.Spreading
import TypedOperations.Selection.Resolve

/-!
# Fields at any depth

The fields of selections with all fields below them, outermost first, in the order in which they are written. Guards around
selections change nothing of the fields in them, and the types that selections use are those of these fields.
-/

namespace TypedOperations

mutual

/-- The fields in a selection, at any depth. -/
def Selection.fields : Selection → List Field
  | .field ⟨key, name, type, label, arguments, description, none, conditional⟩ =>
    [⟨key, name, type, label, arguments, description, none, conditional⟩]
  | .field ⟨key, name, type, label, arguments, description, some ⟨ts, sels⟩, conditional⟩ =>
    ⟨key, name, type, label, arguments, description, some ⟨ts, sels⟩, conditional⟩ :: allFields sels
  | .typeCondition _ ⟨_, sels⟩ => allFields sels
  | .spread _ => []
  | .guarded _ _ ⟨_, sels⟩ => allFields sels

/-- The fields in selections, at any depth. -/
def allFields : List Selection → List Field
  | [] => []
  | x :: rest => x.fields ++ allFields rest

end

theorem allFields_append (a b : List Selection) : allFields (a ++ b) = allFields a ++ allFields b := by
  induction a with
  | nil => rfl
  | cons x rest ih => rw [List.cons_append, allFields, allFields, ih, List.append_assoc]

theorem fields_subset_of_mem {sels : List Selection} {x : Selection} (h : x ∈ sels) : x.fields ⊆ allFields sels := by
  obtain ⟨before, after, rfl⟩ := List.append_of_mem h
  rw [allFields_append, allFields]
  exact List.subset_append_of_subset_right _ (List.subset_append_left _ _)

theorem mem_fields_self (f : Field) : f ∈ (Selection.field f).fields := by
  obtain ⟨_, _, _, _, _, _, sub, _⟩ := f
  cases sub <;> exact List.mem_cons_self

theorem allFields_subset_fields {f : Field} {sub : SelectionSet} (h : f.selectionSet = some sub) :
    allFields sub.selections ⊆ (Selection.field f).fields := by
  obtain ⟨_, _, _, _, _, _, set, _⟩ := f
  cases h
  exact List.subset_cons_self _ _

/-- Guards around selections change nothing of the fields in them. -/
@[simp] theorem allFields_guardAll (possible : List String) (gs : List Resolve.Guard) (sels : List Selection) :
    allFields (Resolve.guardAll possible gs sels) = allFields sels := by
  induction gs with
  | nil => rfl
  | cons g gs ih => simpa [Resolve.guardAll, allFields, Selection.fields] using ih

/-- The fields of selections in guards and of what follows them. -/
theorem mem_allFields_guarded {possible : List String} {gs : List Resolve.Guard} {sels more : List Selection} {f : Field} :
    f ∈ allFields (Resolve.guardAll possible gs sels ++ more) ↔ f ∈ allFields sels ∨ f ∈ allFields more := by
  rw [allFields_append, allFields_guardAll, List.mem_append]

/-- A field comes before the fields of its sub-selections. -/
theorem allFields_singleton (f : Field) :
    allFields [.field f] = f :: (f.selectionSet.map fun set => allFields set.selections).getD [] := by
  obtain ⟨_, _, _, _, _, _, sub, _⟩ := f
  cases sub <;> simp [allFields, Selection.fields]

/-- The types that selections use are those of the fields in them, in order. -/
theorem allFieldTypes_eq (sels : List Selection) :
    Resolve.allFieldTypes sels = (allFields sels).map fun f => f.type.base.name := by
  induction sels using selections_induction with
  | nil => rfl
  | field f rest ihi ih =>
    obtain ⟨_, _, _, _, _, _, sub, _⟩ := f
    cases sub with
    | none => simp [Resolve.allFieldTypes, Resolve.fieldTypes, allFields, Selection.fields, ih]
    | some sub =>
      simp [Resolve.allFieldTypes, Resolve.fieldTypes, allFields, Selection.fields, ih, ihi sub rfl]
  | typeCondition t ts inner rest ihi ih =>
    simp [Resolve.allFieldTypes, Resolve.fieldTypes, allFields, Selection.fields, ih, ihi]
  | spread name rest ih => simp [Resolve.allFieldTypes, Resolve.fieldTypes, allFields, Selection.fields, ih]
  | guarded flag inverted ts inner rest ihi ih =>
    simp [Resolve.allFieldTypes, Resolve.fieldTypes, allFields, Selection.fields, ih, ihi]

end TypedOperations
