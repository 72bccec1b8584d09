import TypedOperations.Declaration.Build
import TypedOperations.Proofs.Selection.Reaching

/-!
# Classes that properties name

A property with a record for its value names the class of the record: in its annotation, inside all layers of lists and
nullables, and in the expression that reads the value. What that class is follows from the field and the scope alone.
-/

namespace TypedOperations

section
variable {o : Options} {inner : String}

@[simp] theorem TypeExpression.base_allowNone (allowed : Bool) (e : TypeExpression) : (e.allowNone allowed).base = e.base := by
  cases allowed <;> rfl

@[simp] theorem base_nullable (t : ResolvedType) : t.nullable.base = t.base := by
  cases t <;> rfl

/-- The annotation of a composite type has the name that is given for it. -/
theorem base_of_typeExpression (hinner : inner ≠ "") {t : ResolvedType} (ht : t.base.kind.isComposite = true) :
    ∀ {e : TypeExpression}, o.typeExpression inner t = .ok e → e.base = inner := by
  induction t with
  | named t required =>
    intro e h
    obtain ⟨name, hname, h⟩ := bind_eq_ok.mp h
    have hgiven : (inner != "" && (t.kind.isComposite || inner == "Snapshot")) = true := by
      simp [hinner, show t.kind.isComposite = true from ht]
    rw [Options.typeName, if_pos hgiven] at hname
    cases hname
    cases pure_eq_ok.mp h
    exact TypeExpression.base_allowNone _ _
  | list item required ih =>
    intro e h
    obtain ⟨e, he, h⟩ := bind_eq_ok.mp h
    cases pure_eq_ok.mp h
    have hitem : e.base = inner := ih ht he
    rw [TypeExpression.base_allowNone]
    exact hitem

end

/-! ## Properties of fields -/

/-- The class of the record of a field: the one that is given, or else one named after the key, in the scope. -/
def Field.recordName (f : Field) (scope className : String) : String :=
  within scope (if className == "" then Naming.recordClass f.responseKey else className)

section
variable {o : Options} {f : Field} {scope className : String} {taken : List String} {p : Property}

/-- The property of a field has the key of the field and what is selected of it, and is composite if the field is. -/
theorem Options.fieldProperty_ok (h : o.fieldProperty f scope className taken = .ok p) :
    p.name = f.responseKey ∧ p.selectionSet = f.selectionSet ∧ p.isComposite = f.type.base.kind.isComposite := by
  obtain ⟨hint, -, h⟩ := bind_eq_ok.mp h
  cases pure_eq_ok.mp h
  refine ⟨rfl, rfl, ?_⟩
  unfold Property.isComposite
  split
  · rename_i t ht
    cases ht
    cases f.conditional <;> simp
  · rename_i ht
    cases ht

/-- The property of a field has the attribute of its key. -/
theorem Options.fieldProperty_attribute (h : o.fieldProperty f scope className taken = .ok p) :
    p.attributeName = Naming.attributeName f.responseKey taken := by
  obtain ⟨hint, -, h⟩ := bind_eq_ok.mp h
  rw [← pure_eq_ok.mp h]

/-- The property of a composite field names the class of its record. -/
theorem Options.fieldProperty_names (h : o.fieldProperty f scope className taken = .ok p)
    (hcomposite : f.type.base.kind.isComposite = true) :
    p.className = some (f.recordName scope className) ∧
      (f.recordName scope className ≠ "" → p.hint.base = f.recordName scope className) := by
  obtain ⟨hint, hhint, h⟩ := bind_eq_ok.mp h
  have htype : (if f.conditional then f.type.nullable else f.type).base.kind.isComposite = true := by
    cases f.conditional <;> simpa using hcomposite
  simp only [htype, if_true] at hhint h
  cases pure_eq_ok.mp h
  exact ⟨rfl, fun hne => base_of_typeExpression hne htype hhint⟩

/-- The attribute of a composite property makes an object of the class that the property names. -/
theorem Options.fieldAccessor_ok {a : FieldAccessor} (h : o.fieldAccessor p = .ok a) :
    a.property = p ∧
      (p.isComposite = true → ∃ storage, a.reading = .mapped storage (.construct (p.className.getD ""))) := by
  obtain ⟨documentation, -, h⟩ := bind_eq_ok.mp h
  obtain ⟨reading, hreading, h⟩ := bind_eq_ok.mp h
  cases pure_eq_ok.mp h
  refine ⟨rfl, fun hcomposite => ?_⟩
  unfold Property.isComposite at hcomposite
  unfold Options.reading at hreading
  split at hreading
  · rename_i ht
    simp [ht] at hcomposite
  · rename_i t ht
    rw [ht] at hcomposite
    rw [if_pos hcomposite] at hreading
    obtain ⟨storage, -, hreading⟩ := bind_eq_ok.mp hreading
    cases pure_eq_ok.mp hreading
    exact ⟨storage, rfl⟩

end

/-! ## Properties of fragments -/

/-- The property is that of a fragment of the context. -/
def Context.FragmentProperty (c : Context) (name : String) (p : Property) : Prop :=
  (∃ f, c.fragments.get? name = some f) ∧ ∃ conditional, p = c.options.fragmentProperty name conditional

/-- The fragments spread directly among the selections are given properties, each that of a fragment of the context. -/
theorem Context.fragmentProperties_spec {c : Context} {set : SelectionSet} {sels : List Selection}
    {properties : Entries Property} :
    ∀ {found : Entries Property}, c.fragmentProperties set found sels = .ok properties →
      (∀ name, name ∈ properties.names ↔ name ∈ found.names ∨ .spread name ∈ sels) ∧
        ((∀ e ∈ found, c.FragmentProperty e.1 e.2) → ∀ e ∈ properties, c.FragmentProperty e.1 e.2) := by
  induction sels with
  | nil =>
    intro found h
    cases h
    exact ⟨by simp, id⟩
  | cons x rest ih =>
    intro found h
    cases x with
    | spread name =>
      rw [Context.fragmentProperties] at h
      split at h
      · rename_i hfound
        obtain ⟨hnames, hproperties⟩ := ih h
        have hmem := Entries.has_iff_mem_names.mp hfound
        refine ⟨fun n => (hnames n).trans ?_, hproperties⟩
        constructor
        · exact Or.imp_right (List.mem_cons_of_mem _)
        · rintro (hn | hn)
          · exact Or.inl hn
          · rcases List.mem_cons.mp hn with hn | hn
            · cases hn
              exact Or.inl hmem
            · exact Or.inr hn
      · rename_i hfound
        rw [Entries.has_iff_mem_names] at hfound
        split at h
        · rename_i f hf
          obtain ⟨hnames, hproperties⟩ := ih h
          refine ⟨fun n => (hnames n).trans ?_, fun hall => hproperties fun e he => ?_⟩
          · simp [Entries.names_put, hfound, or_assoc]
          · rcases Entries.mem_put he with he | rfl
            · exact hall e he
            · exact ⟨⟨f, Context.fragment_eq_ok.mp hf⟩, _, rfl⟩
        · cases h
    | field f => simpa using ih h
    | typeCondition t inside => simpa using ih h
    | guarded flag inverted inside => simpa using ih h

end TypedOperations
