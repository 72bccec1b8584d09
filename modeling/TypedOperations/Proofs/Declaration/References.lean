import TypedOperations.Proofs.Declaration.Classes
import TypedOperations.Proofs.Declaration.Properties
import TypedOperations.Proofs.Selection.Conditions

/-!
# References to classes

The bodies of generated methods refer to classes: descriptors to classes nested in the class at hand and to those of fragments,
attributes to classes by the text of their paths, operations to the fragments that are sent with them. The references are
written from the selections as they stand, under guards too, while classes are declared for the fields that all possible types
have in common, for type conditions regrouped by type, and for the fragments of the context. Still every class that is referred
to is declared, where it is looked for.
-/

namespace TypedOperations

/-! ## Selections and their descriptors -/

mutual

/-- The descriptor, or the descriptors in the guards that it is. -/
def Descriptor.unguarded : Descriptor → List Descriptor
  | .field name label arguments type => [.field name label arguments type]
  | .condition className => [.condition className]
  | .fragment className => [.fragment className]
  | .guarded _ _ body => unguardedDescriptors body

/-- The descriptors in order, with those in guards in their place. -/
def unguardedDescriptors : List Descriptor → List Descriptor
  | [] => []
  | d :: rest => d.unguarded ++ unguardedDescriptors rest

end

/-- The class of a fragment is declared, and this text refers to it. -/
def RefersToFragment (o : Options) (ds : List Declaration) (text : String) : Prop :=
  ∃ f, .fragment f ∈ ds ∧ text = o.pathText [f.name]

section
variable {c : Context} {ds : List Declaration}

/-- The class of a fragment is declared under the name that is made from the name of the fragment. -/
theorem Context.refersToFragment (h : c.declarations = .ok ds) (filed : c.Filed) {name : String}
    (hname : c.fragments.has name = true) :
    RefersToFragment c.options ds (c.options.qualify (Naming.fragmentClass name)) := by
  obtain ⟨f, hf⟩ := Entries.has_iff.mp hname
  have hmem := Entries.mem_of_get? hf
  obtain ⟨r, hr, hclass⟩ := Context.exists_fragmentClass h (List.mem_map_of_mem hmem)
  have hclassName : r.name = Naming.fragmentClass f.name := (Context.makes_of_recordClass hclass).1
  refine ⟨r, hr, ?_⟩
  rw [hclassName, filed _ hmem, Options.pathText, String.intercalate_singleton]

end

/-! ## Nested classes -/

section
variable {c : Context} {ds : List Declaration} {fuel : Nat} {path : List String} {set : SelectionSet} {cases : RecordCase}
  {fragments : Entries Property} {properties : List Property} {r : RecordClass}

/-- Every composite field that all types have is given a class. -/
theorem Context.class_of_common (c : Context) (path : List String) (set : SelectionSet) (fragments : Entries Property)
    {f : Field} (hf : f ∈ cases.common.fields) (hcomposite : f.type.base.kind.isComposite = true) :
    ∃ avoided, (c.scopeOf path set cases fragments).classes.get? f.responseKey =
      some (Naming.fresh (Naming.recordClass f.responseKey) avoided) :=
  Naming.exists_distinctClass (List.mem_map_of_mem (List.mem_filter.mpr ⟨hf, hcomposite⟩))

/-- The class of a composite field that all types have is nested, and is made of the sub-selections of the field. -/
theorem Context.Makes.fieldClass_of_common (hm : c.Makes fuel path set cases fragments properties r) {f : Field}
    (hf : f ∈ cases.common.fields) (hcomposite : f.type.base.kind.isComposite = true) (hkey : f.responseKey ≠ "__typename") :
    ∃ n ∈ r.fieldClasses, (c.scopeOf path set cases fragments).classes.get? f.responseKey = some n.name ∧
      ∃ sub, f.selectionSet = some sub ∧ c.ClassOf (path ++ [n.name]) sub n := by
  have hown : f ∈ ownFields cases.common.fields := List.mem_filter.mpr ⟨hf, by simpa using hkey⟩
  obtain ⟨p, hp, hproperty⟩ := exists_of_mapM hm.properties_eq hown
  obtain ⟨hname, hset, hpc⟩ := Options.fieldProperty_ok hproperty
  obtain ⟨n, hn, hclass⟩ := exists_of_mapM hm.fieldClasses (List.mem_filter.mpr ⟨hp, hpc.trans hcomposite⟩)
  obtain ⟨avoided, hget⟩ := Context.class_of_common c path set fragments hf hcomposite
  obtain ⟨hclassName, sub, hsub, hof⟩ := Context.fieldClass_ok hclass
  refine ⟨n, hn, ?_, sub, hset.symm.trans hsub, hof⟩
  rw [hclassName, hname, hget, Option.getD_some]

/-- Every nested class of a field is that of a composite field that all types have. -/
theorem Context.Makes.common_of_fieldClass (hm : c.Makes fuel path set cases fragments properties r) {n : RecordClass}
    (hn : n ∈ r.fieldClasses) :
    ∃ f ∈ ownFields cases.common.fields, f.type.base.kind.isComposite = true ∧
      n.name = ((c.scopeOf path set cases fragments).classes.get? f.responseKey).getD "" ∧
      ∃ sub, f.selectionSet = some sub ∧ c.ClassOf (path ++ [n.name]) sub n := by
  obtain ⟨p, hp, hclass⟩ := mem_of_mapM hm.fieldClasses hn
  obtain ⟨hp, hcomposite⟩ := List.mem_filter.mp hp
  obtain ⟨f, hf, hproperty⟩ := mem_of_mapM hm.properties_eq hp
  obtain ⟨hname, hset, hkind⟩ := Options.fieldProperty_ok hproperty
  obtain ⟨hclassName, sub, hsub, hof⟩ := Context.fieldClass_ok hclass
  exact ⟨f, hf, hkind.symm.trans hcomposite, by rw [hclassName, hname], sub, hset.symm.trans hsub, hof⟩

/-- A field with a class has the key of a composite field that all types have. -/
theorem Context.common_of_class {key name : String}
    (h : (c.scopeOf path set cases fragments).classes.get? key = some name) :
    ∃ f ∈ cases.common.fields, f.type.base.kind.isComposite = true ∧ f.responseKey = key := by
  obtain ⟨f, hf, hkey⟩ := List.mem_map.mp (Naming.mem_of_distinctClass h)
  obtain ⟨hf, hcomposite⟩ := List.mem_filter.mp hf
  exact ⟨f, hf, hcomposite, hkey⟩

/-- The record of a field with a class is named by the path of that class. -/
theorem Context.recordName_eq (hpath : path ≠ []) (hscope : c.options.pathText path ≠ "") {f : Field} {name : String}
    (h : (c.scopeOf path set cases fragments).classes.get? f.responseKey = some name) :
    f.recordName (c.options.pathText path) name = c.options.pathText (path ++ [name]) := by
  have hname : (if name == "" then Naming.recordClass f.responseKey else name) = name := by
    by_cases hempty : name = ""
    · -- an empty name is only given where the key makes an empty one
      subst hempty
      obtain ⟨f', hf', hcomposite, hkey⟩ := Context.common_of_class h
      obtain ⟨avoided, hfresh⟩ := Context.class_of_common c path set fragments hf' hcomposite
      rw [hkey, h] at hfresh
      simpa using Naming.eq_empty_of_fresh (Option.some.inj hfresh).symm
    · simp [hempty]
  rw [Field.recordName, hname, within, if_neg (by simpa using hscope), Options.pathText_snoc _ hpath]

/-- The attribute of a composite field refers to a nested class. -/
theorem Context.Makes.getter (hm : c.Makes fuel path set cases fragments properties r) (hpath : path ≠ [])
    (hscope : r.qualifiedName ≠ "") {a : FieldAccessor} (ha : a ∈ r.fields) (hcomposite : a.property.isComposite = true) :
    ∃ n ∈ r.fieldClasses, a.property.hint.base = c.options.pathText (path ++ [n.name]) ∧
      ∃ storage, a.reading = .mapped storage (.construct (c.options.pathText (path ++ [n.name]))) := by
  obtain ⟨p, hp, haccessor⟩ := mem_of_mapM hm.fields ha
  obtain ⟨rfl, hreading⟩ := Options.fieldAccessor_ok haccessor
  obtain ⟨f, hf, hproperty⟩ := mem_of_mapM hm.properties_eq hp
  obtain ⟨hcommon, hkey⟩ := List.mem_filter.mp hf
  have hfc : f.type.base.kind.isComposite = true := (Options.fieldProperty_ok hproperty).2.2.symm.trans hcomposite
  obtain ⟨n, hn, hclass, -⟩ := hm.fieldClass_of_common hcommon hfc (by simpa using hkey)
  rw [hm.qualifiedName] at hscope
  have hrecord := Context.recordName_eq hpath hscope hclass
  obtain ⟨hclassName, hhint⟩ := Options.fieldProperty_names hproperty hfc
  rw [hclass, Option.getD_some] at hclassName hhint
  have hscopeEq : (c.scopeOf path set cases fragments).qualifiedName = c.options.pathText path := rfl
  rw [hscopeEq, hrecord] at hclassName hhint
  obtain ⟨storage, hreading⟩ := hreading hcomposite
  rw [hclassName, Option.getD_some] at hreading
  exact ⟨n, hn, hhint (Options.pathText_snoc_ne_empty _ hpath _), storage, hreading⟩

/-- The attribute of a type condition refers to a nested class. -/
theorem Context.Makes.condition (hm : c.Makes fuel path set cases fragments properties r) (hpath : path ≠ []) {p : Property}
    (hp : p ∈ r.conditions) :
    ∃ n ∈ r.conditionClasses, p.hint.base = c.options.pathText (path ++ [n.name]) ∧
      p.className = some (c.options.pathText (path ++ [n.name])) := by
  rw [hm.conditions] at hp
  obtain ⟨t, ht, rfl⟩ := List.mem_map.mp hp
  obtain ⟨e, he, rfl⟩ := List.mem_map.mp ht
  have hfiled : e.1 = e.2.type.name := (typeConditions_filed set.selections).1 e he
  obtain ⟨n, hn, hclass⟩ := exists_of_mapM hm.conditionClasses he
  have hname : n.name = Naming.conditionClass e.2.type.name := hfiled ▸ (Context.makes_of_recordClass hclass).1
  refine ⟨n, hn, ?_⟩
  rw [Options.pathText_snoc _ hpath, hname]
  exact ⟨rfl, rfl⟩

/-- The class of the fragments refers to classes of fragments. -/
theorem Context.Makes.spread (h : c.declarations = .ok ds) (filed : c.Filed)
    (hm : c.Makes fuel path set cases fragments properties r) {p : Property} (hp : p ∈ r.fragments) :
    ∃ className, p.className = some className ∧ p.hint.base = className ∧ RefersToFragment c.options ds className := by
  rw [hm.fragments] at hp
  obtain ⟨e, he, rfl⟩ := List.mem_map.mp hp
  obtain ⟨⟨f, hf⟩, conditional, hproperty⟩ := (Context.fragmentProperties_spec hm.fragments_eq).2 (by simp) e he
  refine ⟨c.options.qualify (Naming.fragmentClass e.1), ?_, ?_, ?_⟩
  · rw [hproperty]
    rfl
  · rw [hproperty]
    exact TypeExpression.base_allowNone _ _
  · exact Context.refersToFragment h filed (Entries.has_iff.mpr ⟨f, hf⟩)

end

/-- The classes of the pets and of their fragment. -/
def petDeclarations : List Declaration := petContext.declarations.toOption.getD []

end TypedOperations
