import TypedOperations.Proofs.Declaration.Annotations
import TypedOperations.Proofs.Declaration.Requests
import TypedOperations.Proofs.Naming.Distinct

/-!
# Members of classes

The members of a class have names of their own unless two of them are made from names that come out alike. Which of them can
come out alike is settled by the first letters and the case of letters: the fixed members, the factories, the accessors of type
conditions and the attribute for fragments begin with different small letters, nested classes do not begin with a small letter,
and attributes have no capitals and avoid the fixed members. What remains are two response keys with one attribute, two types
with one accessor or one factory, a key with the attribute of a factory, and two corner cases (`RecordCase.MembersDiffer`).
Nothing is done about these, so a class with members of one name can be declared, and the later member replaces the earlier one.
-/

namespace TypedOperations

/-! ## Names of members and parameters -/

/-- The names of the parameters of a method that takes properties; `first` is the object or class it belongs to. -/
def Property.parameterNames (first : String) (ps : List Property) : List String :=
  first :: ps.map (·.attributeName)

/-- The attributes of the type conditions of a set. -/
def SelectionSet.accessors (set : SelectionSet) : List String :=
  (typeConditions set.selections).names.map Naming.accessor

namespace RecordCase

/-- The attributes of the fields that all types have. -/
def attributes (cases : RecordCase) (set : SelectionSet) : List String :=
  (ownFields cases.common.fields).map fun f => Naming.attributeName f.responseKey set.accessors

/-- The parameter for a field in a factory: a key that all types have keeps its attribute. -/
def parameterName (cases : RecordCase) (set : SelectionSet) (f : Field) : String :=
  Naming.attributeName f.responseKey
    (if (cases.common.fields.map (·.responseKey)).contains f.responseKey then set.accessors else [])

/-- What it takes for the members of the class of a set to have names of their own, where `nested` names the classes of its
composite fields. -/
structure MembersDiffer (cases : RecordCase) (set : SelectionSet) (nested : List String) : Prop where
  /-- Response keys differ in their attributes. -/
  attributes : (cases.attributes set).Nodup
  /-- Type conditions differ in their accessors. -/
  accessors : set.accessors.Nodup
  /-- Where each possible type has a factory, the types differ in snake case too, -/
  factories : cases.isMonomorphic = false → (set.possibleTypes.map Naming.snakeCase).Nodup
  /-- and no attribute is the name of a factory. -/
  apart : cases.isMonomorphic = false → ∀ t ∈ set.possibleTypes, "make_" ++ Naming.snakeCase t ∉ cases.attributes set
  /-- An accessor that has to avoid a reserved word is not an attribute that has to. -/
  narrowed : "as_" ∈ cases.attributes set → "as_" ∉ set.accessors
  /-- Attributes without a letter or an underscore at their beginning are no nested classes. -/
  nested : ∀ name ∈ cases.attributes set, Naming.isUnlettered name = true → name ∉ nested

end RecordCase

/-! ## What the names are -/

section
variable {c : Context} {fuel : Nat} {path : List String} {set : SelectionSet} {cases : RecordCase}
  {fragments : Entries Property} {properties : List Property} {r : RecordClass} {s : RecordScope}

/-- The attributes of type conditions are made from the types that they are filed under. -/
theorem accessors_eq (scope : String) :
    ((typeConditions set.selections).values.map fun t => Options.conditionProperty t.type t.set scope).map (·.attributeName) =
      set.accessors := by
  rw [SelectionSet.accessors, Entries.values, Entries.names, List.map_map, List.map_map, List.map_map]
  refine List.map_congr_left fun e he => ?_
  have hfiled := (typeConditions_filed set.selections).1 e he
  simp only [Function.comp_apply, Options.conditionProperty, hfiled, Naming.accessor]

/-- No two fields that all types have share a response key. -/
theorem responseKeys_nodup (h : c.casesOf set = .ok cases) : (cases.common.fields.map (·.responseKey)).Nodup := by
  rw [Context.common_of_collected h, grouped_responseKeys]
  exact grouped_names_nodup _

theorem Context.Makes.accessors (hm : c.Makes fuel path set cases fragments properties r) :
    r.conditions.map (·.attributeName) = set.accessors := by
  rw [hm.conditions, accessors_eq]

theorem Context.Makes.attributes (hm : c.Makes fuel path set cases fragments properties r) :
    r.fields.map (·.property.attributeName) = cases.attributes set := by
  have hfields : r.fields.map (·.property.attributeName) = properties.map (·.attributeName) :=
    map_of_mapM hm.fields fun p a ha => by rw [(Options.fieldAccessor_ok ha).1]
  rw [hfields]
  refine map_of_mapM hm.properties_eq fun f p hp => ?_
  rw [Options.fieldProperty_attribute hp]
  exact congrArg _ (accessors_eq _)

theorem Context.Makes.conditionNames (hm : c.Makes fuel path set cases fragments properties r) :
    r.conditionClasses.map (·.name) = (typeConditions set.selections).names.map Naming.conditionClass := by
  rw [Entries.names, List.map_map]
  exact map_of_mapM hm.conditionClasses fun e n hn => (Context.makes_of_recordClass hn).1

/-- The classes of composite fields are distinct, avoid the other nested classes, and are made from response keys. -/
theorem Context.Makes.fieldNames (hm : c.Makes fuel path set cases fragments properties r) :
    (r.fieldClasses.map (·.name)).Nodup ∧ ∀ name ∈ r.fieldClasses.map (·.name),
      name ∉ (typeConditions set.selections).names.map Naming.conditionClass ++
          (if r.fragments.isEmpty then [] else ["Fragments"]) ∧
        ∃ key avoided, name = Naming.fresh (Naming.recordClass key) avoided := by
  have hnames : r.fieldClasses.map (·.name) = ((properties.filter (·.isComposite)).map (·.name)).map fun key =>
      ((c.scopeOf path set cases fragments).classes.get? key).getD "" := by
    rw [List.map_map]
    exact map_of_mapM hm.fieldClasses fun p n hn => (Context.fieldClass_ok hn).1
  have hproperties : properties.map (·.name) = (ownFields cases.common.fields).map (·.responseKey) :=
    map_of_mapM hm.properties_eq fun f p hp => (Options.fieldProperty_ok hp).1
  have hkeys := responseKeys_nodup hm.cases_eq
  have hown : (properties.map (·.name)).Nodup := by
    rw [hproperties]
    exact hkeys.sublist (List.filter_sublist.map _)
  rw [hnames, hm.fragments]
  refine Naming.distinctClasses_names (hkeys.sublist (List.filter_sublist.map _)) (hown.sublist (List.filter_sublist.map _)) ?_
  intro key hkey
  obtain ⟨p, hp, rfl⟩ := List.mem_map.mp hkey
  obtain ⟨hp, hcomposite⟩ := List.mem_filter.mp hp
  obtain ⟨f, hf, hproperty⟩ := mem_of_mapM hm.properties_eq hp
  obtain ⟨hname, -, hkind⟩ := Options.fieldProperty_ok hproperty
  rw [hname]
  exact List.mem_map_of_mem (List.mem_filter.mpr ⟨(List.mem_filter.mp hf).1, hkind.symm.trans hcomposite⟩)

/-- A parameter of a factory has the attribute of its key, which avoids the accessors if all types have the key. -/
theorem propertyFor_attribute {common : List String} {type : String} {g : Field} {p : Property}
    (h : s.propertyFor common type g = .ok p) :
    p.attributeName = Naming.attributeName g.responseKey (if common.contains g.responseKey then s.taken else []) := by
  unfold RecordScope.propertyFor at h
  by_cases hcommon : common.contains g.responseKey = true
  · rw [if_pos hcommon] at h ⊢
    exact Options.fieldProperty_attribute h
  · rw [if_neg hcommon] at h ⊢
    exact Options.fieldProperty_attribute h

/-- The factories of a class: one, or one for each possible type. -/
theorem factories_names {out : List Factory} (hout : s.factories cases = .ok out) :
    out.map (·.name) = if cases.isMonomorphic then ["make"]
      else (cases.records.flatMap (·.possibleTypes)).map fun t => "make_" ++ Naming.snakeCase t := by
  obtain ⟨htypes, hall⟩ := RecordScope.factories_spec hout
  rw [List.map_congr_left fun f hf => (hall f hf).1]
  cases hmono : cases.isMonomorphic with
  | false => simp [← htypes]
  | true =>
    have hone : out.length = 1 := by
      rw [← List.length_map (·.typename), htypes]
      unfold RecordCase.isMonomorphic at hmono
      split at hmono
      · rename_i r hrecords
        simpa [hrecords] using hmono
      · cases hmono
    obtain ⟨f, rfl⟩ := List.length_eq_one_iff.mp hone
    rfl

end

/-! ## Which names differ -/

/-- Texts of two lists differ if their first characters do. -/
theorem disjoint_of_heads {as bs : List String} (P : Option Char → Prop) (has : ∀ a ∈ as, P a.toList.head?)
    (hbs : ∀ b ∈ bs, ¬P b.toList.head?) : as.Disjoint bs :=
  fun name ha hb => hbs name hb (has name ha)

/-- What stands for fragments in a class has one name, or is left out. -/
theorem mem_fragmentsName {left : Bool} {name fixed : String} (h : name ∈ if left then [] else [fixed]) : name = fixed := by
  cases left with
  | true => cases h
  | false => exact List.mem_singleton.mp h

theorem fragmentsName_nodup (left : Bool) (fixed : String) : (if left then [] else [fixed]).Nodup := by
  cases left <;> simp

section
variable {c : Context} {fuel : Nat} {path : List String} {set : SelectionSet} {cases : RecordCase}
  {fragments : Entries Property} {properties : List Property} {r : RecordClass}

/-- The members that are neither attributes of fields nor classes. -/
def RecordClass.plainNames (r : RecordClass) : List String :=
  ["possible_types", "selections"] ++ (r.factories.map (·.name) ++
    (r.conditions.map (·.attributeName) ++ if r.fragments.isEmpty then [] else ["fragments"]))

/-- The members of a class in another order: attributes and classes last. -/
theorem RecordClass.memberNames_perm (r : RecordClass) :
    r.memberNames.Perm (r.plainNames ++ r.fields.map (·.property.attributeName) ++ r.nestedNames) := by
  rw [RecordClass.memberNames, RecordClass.plainNames, List.perm_iff_count]
  intro name
  simp only [List.count_append]
  omega

/-- The plain members by kind. -/
theorem Context.Makes.mem_plainNames (hm : c.Makes fuel path set cases fragments properties r) {name : String}
    (h : name ∈ r.plainNames) :
    name ∈ ["possible_types", "selections"] ∨ name ∈ r.factories.map (·.name) ∨ name ∈ set.accessors ∨ name = "fragments" := by
  rw [RecordClass.plainNames, hm.accessors, List.mem_append, List.mem_append, List.mem_append] at h
  exact h.imp_right (Or.imp_right (Or.imp_right mem_fragmentsName))

theorem head?_of_accessors {name : String} (h : name ∈ set.accessors) : name.toList.head? = some 'a' := by
  obtain ⟨type, -, rfl⟩ := List.mem_map.mp h
  exact Naming.head?_accessor type

/-- Factories begin with `m`. -/
theorem Context.Makes.head?_factories (hm : c.Makes fuel path set cases fragments properties r) {name : String}
    (h : name ∈ r.factories.map (·.name)) : name.toList.head? = some 'm' := by
  rw [factories_names hm.factories] at h
  split at h
  · rw [List.mem_singleton.mp h]
    rfl
  · obtain ⟨t, -, rfl⟩ := List.mem_map.mp h
    simp

/-- Where each possible type has a factory, the factories are those of the possible types. -/
theorem Context.Makes.factories_perm (hm : c.Makes fuel path set cases fragments properties r)
    (hpoly : cases.isMonomorphic = false) :
    (r.factories.map (·.name)).Perm (set.possibleTypes.map fun t => "make_" ++ Naming.snakeCase t) := by
  obtain ⟨merged, fields, -, hof, -⟩ := recordsOf_casesOf hm.cases_eq
  rw [factories_names hm.factories, if_neg (by simp [hpoly])]
  exact hof.types.map _

theorem Context.Makes.mem_factories (hm : c.Makes fuel path set cases fragments properties r)
    (hpoly : cases.isMonomorphic = false) {name : String} :
    name ∈ r.factories.map (·.name) ↔ ∃ t ∈ set.possibleTypes, "make_" ++ Naming.snakeCase t = name := by
  rw [(hm.factories_perm hpoly).mem_iff, List.mem_map]

/-- Factories differ unless there is one for each possible type and two types have one snake case. -/
theorem Context.Makes.factories_nodup (hm : c.Makes fuel path set cases fragments properties r) :
    (r.factories.map (·.name)).Nodup ↔ (cases.isMonomorphic = false → (set.possibleTypes.map Naming.snakeCase).Nodup) := by
  cases hmono : cases.isMonomorphic with
  | true =>
    rw [factories_names hm.factories, if_pos hmono]
    simp
  | false =>
    have hmap : set.possibleTypes.map (fun t => "make_" ++ Naming.snakeCase t) =
        (set.possibleTypes.map Naming.snakeCase).map ("make_" ++ ·) := by
      rw [List.map_map]
      rfl
    rw [(hm.factories_perm hmono).nodup_iff, hmap, List.nodup_map_iff fun _ _ => (String.append_right_inj "make_").mp]
    simp

/-- The plain members differ exactly if the factories do and the accessors do. -/
theorem Context.Makes.plainNames_nodup (hm : c.Makes fuel path set cases fragments properties r) :
    r.plainNames.Nodup ↔ (r.factories.map (·.name)).Nodup ∧ set.accessors.Nodup := by
  rw [RecordClass.plainNames, hm.accessors, List.nodup_append', List.nodup_append', List.nodup_append']
  refine ⟨fun h => ⟨h.2.1.1, h.2.1.2.1.1⟩, fun h => ⟨by decide, ⟨h.1, ⟨h.2, fragmentsName_nodup _ _, ?_⟩, ?_⟩, ?_⟩⟩
  · refine disjoint_of_heads (· = some 'a') (fun name hname => head?_of_accessors hname) fun name hname => ?_
    rw [mem_fragmentsName hname]
    decide
  · refine disjoint_of_heads (· = some 'm') (fun name hname => hm.head?_factories hname) fun name hname => ?_
    rcases List.mem_append.mp hname with hname | hname
    · rw [head?_of_accessors hname]
      decide
    · rw [mem_fragmentsName hname]
      decide
  · refine disjoint_of_heads (· ∈ [some 'p', some 's']) (by decide) fun name hname => ?_
    rcases List.mem_append.mp hname with hname | hname
    · rw [hm.head?_factories hname]
      decide
    · rcases List.mem_append.mp hname with hname | hname
      · rw [head?_of_accessors hname]
        decide
      · rw [mem_fragmentsName hname]
        decide

/-- The plain members begin with a small letter. -/
theorem Context.Makes.beginsSmall_plainNames (hm : c.Makes fuel path set cases fragments properties r) {name : String}
    (h : name ∈ r.plainNames) : Naming.beginsSmall name = true := by
  have hsmall : ∀ {first : Char}, first.isLower = true → name.toList.head? = some first → Naming.beginsSmall name = true := by
    intro first hfirst hhead
    rw [Naming.beginsSmall, hhead]
    exact hfirst
  rcases hm.mem_plainNames h with h | h | h | rfl
  · have hfixed : ∀ fixed ∈ ["possible_types", "selections"], Naming.beginsSmall fixed = true := by decide
    exact hfixed name h
  · exact hsmall (by decide) (hm.head?_factories h)
  · exact hsmall (by decide) (head?_of_accessors h)
  · decide

/-- The names of nested classes by kind. -/
theorem Context.Makes.mem_nestedNames (hm : c.Makes fuel path set cases fragments properties r) {name : String}
    (h : name ∈ r.nestedNames) :
    (∃ first, name.toList.head? = some first ∧ first.isUpper = true) ∨ name ∈ r.fieldClasses.map (·.name) := by
  rcases List.mem_append.mp h with h | h
  · left
    rcases List.mem_append.mp h with h | h
    · rw [hm.conditionNames] at h
      obtain ⟨type, -, rfl⟩ := List.mem_map.mp h
      exact ⟨'A', Naming.head?_conditionClass type, rfl⟩
    · rw [mem_fragmentsName h]
      exact ⟨'F', by decide, rfl⟩
  · exact Or.inr h

/-- Nested classes do not begin with a small letter. -/
theorem Context.Makes.beginsSmall_nestedNames (hm : c.Makes fuel path set cases fragments properties r) {name : String}
    (h : name ∈ r.nestedNames) : Naming.beginsSmall name = false := by
  rcases hm.mem_nestedNames h with ⟨first, hhead, hfirst⟩ | h
  · rw [Naming.beginsSmall, hhead]
    exact Text.isLower_of_isUpper hfirst
  · obtain ⟨-, key, avoided, rfl⟩ := hm.fieldNames.2 name h
    exact Naming.beginsSmall_recordClass key avoided

/-- Nested classes differ if the accessors do. -/
theorem Context.Makes.nestedNames_nodup (hm : c.Makes fuel path set cases fragments properties r)
    (haccessors : set.accessors.Nodup) : r.nestedNames.Nodup := by
  obtain ⟨hfields, havoid⟩ := hm.fieldNames
  rw [RecordClass.nestedNames, hm.conditionNames, List.nodup_append', List.nodup_append']
  refine ⟨⟨?_, fragmentsName_nodup _ _, ?_⟩, hfields, fun name hothers hname => (havoid name hname).1 hothers⟩
  · -- the accessor of a condition is made from its class
    have hclasses : set.accessors =
        ((typeConditions set.selections).names.map Naming.conditionClass).map fun name => Naming.attributeName name := by
      rw [SelectionSet.accessors, List.map_map]
      exact List.map_congr_left fun type _ => by simp only [Function.comp_apply, Naming.accessor]
    rw [hclasses] at haccessors
    exact haccessors.of_map _
  · refine disjoint_of_heads (· = some 'A') (fun name hname => ?_) fun name hname => ?_
    · obtain ⟨type, -, rfl⟩ := List.mem_map.mp hname
      exact Naming.head?_conditionClass type
    · rw [mem_fragmentsName hname]
      decide

/-- No plain member is an attribute exactly if no factory for a type is one and `as_` is not both. -/
theorem Context.Makes.plainNames_disjoint (hm : c.Makes fuel path set cases fragments properties r) :
    r.plainNames.Disjoint (cases.attributes set) ↔
      (cases.isMonomorphic = false → ∀ t ∈ set.possibleTypes, "make_" ++ Naming.snakeCase t ∉ cases.attributes set) ∧
        ("as_" ∈ cases.attributes set → "as_" ∉ set.accessors) := by
  have hown : ∀ name ∈ cases.attributes set, name ∉ Naming.recordAttributes := by
    intro name h
    obtain ⟨f, -, rfl⟩ := List.mem_map.mp h
    exact Naming.attributeName_notMem _ _
  constructor
  · refine fun h => ⟨fun hpoly t ht hattribute => ?_, fun hattribute haccessor => ?_⟩
    · have hfactory : "make_" ++ Naming.snakeCase t ∈ r.factories.map (·.name) := by
        rw [hm.mem_factories hpoly]
        exact ⟨t, ht, rfl⟩
      exact h (List.mem_append_right _ (List.mem_append_left _ hfactory)) hattribute
    · refine h (List.mem_append_right _ (List.mem_append_right _ (List.mem_append_left _ ?_))) hattribute
      rw [hm.accessors]
      exact haccessor
  · intro ⟨hapart, hnarrowed⟩ name hplain hattribute
    rcases hm.mem_plainNames hplain with hfixed | hfactory | haccessor | rfl
    · have hfixed_own : ∀ fixed ∈ ["possible_types", "selections"], fixed ∈ Naming.recordAttributes := by decide
      exact hown name hattribute (hfixed_own name hfixed)
    · cases hmono : cases.isMonomorphic with
      | true =>
        rw [factories_names hm.factories, if_pos hmono] at hfactory
        rw [List.mem_singleton.mp hfactory] at hattribute
        exact hown _ hattribute (by decide)
      | false =>
        obtain ⟨t, ht, rfl⟩ := (hm.mem_factories hmono).mp hfactory
        exact hapart hmono t ht hattribute
    · have has : name = "as_" := by
        obtain ⟨f, -, rfl⟩ := List.mem_map.mp hattribute
        exact Naming.eq_as_of_accessor haccessor
      rw [has] at hattribute haccessor
      exact hnarrowed hattribute haccessor
    · exact hown _ hattribute (by decide)

/-- No attribute is a nested class exactly if none without a letter at its beginning is the class of a field. -/
theorem Context.Makes.nestedNames_disjoint (hm : c.Makes fuel path set cases fragments properties r) :
    (cases.attributes set).Disjoint r.nestedNames ↔
      ∀ name ∈ cases.attributes set, Naming.isUnlettered name = true → name ∉ r.fieldClasses.map (·.name) := by
  constructor
  · exact fun h name hname _ hfield => h hname (List.mem_append_right _ hfield)
  · intro h name hname hnested
    obtain ⟨f, hf, rfl⟩ := List.mem_map.mp hname
    rcases hm.mem_nestedNames hnested with ⟨first, hhead, hfirst⟩ | hfield
    · exact Naming.attributeName_ne_of_capital hhead hfirst rfl
    · obtain ⟨-, key, avoided, hkey⟩ := hm.fieldNames.2 _ hfield
      exact h _ hname (Naming.isUnlettered_of_recordClass hkey) hfield

/-- The members of a class have names of their own exactly if those do that can come out alike. -/
theorem Context.Makes.memberNames_nodup_iff (hm : c.Makes fuel path set cases fragments properties r) :
    r.memberNames.Nodup ↔ cases.MembersDiffer set (r.fieldClasses.map (·.name)) := by
  rw [r.memberNames_perm.nodup_iff, hm.attributes, List.nodup_append', List.nodup_append', hm.plainNames_nodup,
    hm.factories_nodup, hm.plainNames_disjoint, List.disjoint_append_left, hm.nestedNames_disjoint]
  constructor
  · rintro ⟨⟨⟨hfactories, haccessors⟩, hattributes, hapart, hnarrowed⟩, -, -, hnested⟩
    exact ⟨hattributes, haccessors, hfactories, hapart, hnarrowed, hnested⟩
  · rintro ⟨hattributes, haccessors, hfactories, hapart, hnarrowed, hnested⟩
    refine ⟨⟨⟨hfactories, haccessors⟩, hattributes, hapart, hnarrowed⟩, hm.nestedNames_nodup haccessors, ?_, hnested⟩
    intro name hplain hclass
    have hsmall := hm.beginsSmall_plainNames hplain
    rw [hm.beginsSmall_nestedNames hclass] at hsmall
    cases hsmall

end

/-! ## Parameters -/

section
variable {c : Context} {ds : List Declaration}

/-- Parameters differ exactly if the attributes of the properties do, where none of them is the first parameter. -/
theorem parameterNames_nodup {first : String} {ps : List Property} {names : List String}
    (hps : ps.map (·.attributeName) = names) (hfirst : first ∉ names) :
    (Property.parameterNames first ps).Nodup ↔ names.Nodup := by
  rw [Property.parameterNames, hps, List.nodup_cons]
  exact and_iff_right hfirst

/-- The class of an operation has a parameter for each variable, named for it. -/
theorem attributes_of_operationClass {o : Operation} {k : OperationClass} (h : c.operationClass o = .ok k) :
    k.parameters.map (·.attributeName) = o.parameters.map fun v => Naming.variableAttribute v.name := by
  obtain ⟨⟨name, base⟩, -, h⟩ := bind_eq_ok.mp h
  obtain ⟨reached, -, h⟩ := bind_eq_ok.mp h
  -- with or without an identifier, the parameters are made in the same way
  have hparameters : o.parameters.mapM c.options.variableProperty = .ok k.parameters := by
    dsimp only at h
    split at h <;>
    · obtain ⟨identifier, -, h⟩ := bind_eq_ok.mp h
      obtain ⟨parameters, hparameters, h⟩ := bind_eq_ok.mp h
      obtain ⟨data, -, h⟩ := bind_eq_ok.mp h
      rw [← pure_eq_ok.mp h]
      exact hparameters
  refine map_of_mapM hparameters fun v p hp => ?_
  obtain ⟨hint, -, hp⟩ := bind_eq_ok.mp hp
  rw [← pure_eq_ok.mp hp]

/-- The class of an input object has an attribute for each field, named for it. -/
theorem attributes_of_inputClass {name : String} {description : Option Remark} {fields : List Schema.InputValue}
    {i : InputClass} (h : c.inputClass name description fields = .ok i) :
    (i.fields.map (·.property)).map (·.attributeName) = fields.map fun f => Naming.attributeName f.name := by
  obtain ⟨properties, hproperties, h⟩ := bind_eq_ok.mp h
  obtain ⟨documentation, -, h⟩ := bind_eq_ok.mp h
  obtain ⟨accessors, haccessors, h⟩ := bind_eq_ok.mp h
  rw [← pure_eq_ok.mp h]
  have hsame : accessors.map (·.property) = properties.map id := by
    refine map_of_mapM haccessors fun p a ha => ?_
    obtain ⟨text, -, ha⟩ := bind_eq_ok.mp ha
    rw [← pure_eq_ok.mp ha]
    rfl
  rw [hsame, List.map_id]
  refine map_of_mapM hproperties fun f p hp => ?_
  obtain ⟨hint, -, hp⟩ := bind_eq_ok.mp hp
  rw [← pure_eq_ok.mp hp]

/-- Every class of an input object in the module is made for one that is used. -/
theorem Context.input_of_declarations (h : c.declarations = .ok ds) {i : InputClass} (hi : .input i ∈ ds) :
    ∃ t ∈ c.typesUsed, ∃ fields isOneOf, t.body = .inputObject fields isOneOf ∧
      c.inputClass t.name t.description fields = .ok i := by
  obtain ⟨types, htypes, h⟩ := bind_eq_ok.mp h
  obtain ⟨operations, -, h⟩ := bind_eq_ok.mp h
  obtain ⟨fragments, -, h⟩ := bind_eq_ok.mp h
  rw [← pure_eq_ok.mp h] at hi
  have hin : .input i ∈ types := by simpa using hi
  obtain ⟨t, ht, hclass⟩ := mem_of_filterMapM htypes hin
  refine ⟨t, ht, ?_⟩
  unfold Context.typeClass at hclass
  split at hclass
  · obtain ⟨e, -, hclass⟩ := bind_eq_ok.mp hclass
    cases pure_eq_ok.mp hclass
  · rename_i fields isOneOf hbody
    obtain ⟨made, hmade, hclass⟩ := bind_eq_ok.mp hclass
    cases pure_eq_ok.mp hclass
    exact ⟨fields, isOneOf, hbody, hmade⟩
  · cases hclass

end

/-- When names differ. Take a context for which all declarations can be made. The members of the class of a selection set have
names of their own exactly if response keys differ in their attributes, type conditions in their accessors and possible types in
their factories, no attribute is a factory, and the two corner cases do not arise; no other two members can have one name. The
parameters of a factory differ exactly if the fields of the record that it makes differ in them; those of operations exactly if
the attributes of variables differ, and those of input objects exactly if the attributes of fields do. -/
theorem members_differ_iff (c : Context) (ds : List Declaration) (made : c.declarations = .ok ds) :
    (∀ path r, ClassAt ds path r → ∃ set cases, c.ClassOf path set r ∧ c.casesOf set = .ok cases ∧
        (r.memberNames.Nodup ↔ cases.MembersDiffer set (r.fieldClasses.map (·.name))) ∧
        ∀ f ∈ r.factories, ∃ record ∈ cases.records, f.typename ∈ record.possibleTypes ∧
          ((Property.parameterNames "cls" f.properties).Nodup ↔
            ((ownFields record.fields).map (cases.parameterName set)).Nodup)) ∧
      (∀ k, .operation k ∈ ds → ∃ o ∈ c.operations.values, c.operationClass o = .ok k ∧
        ((Property.parameterNames "self" k.parameters).Nodup ↔
          (o.parameters.map fun v => Naming.variableAttribute v.name).Nodup)) ∧
      ∀ i, .input i ∈ ds → ∃ t ∈ c.typesUsed, ∃ fields isOneOf, t.body = .inputObject fields isOneOf ∧
        c.inputClass t.name t.description fields = .ok i ∧
        ((Property.parameterNames "self" (i.fields.map (·.property))).Nodup ↔
          (fields.map fun f => Naming.attributeName f.name).Nodup) := by
  have hown : ∀ {first name : String} {taken : List String}, first ∈ Naming.recordAttributes →
      Naming.attributeName name taken ≠ first :=
    fun hfirst he => Naming.attributeName_notMem _ _ (he ▸ hfirst)
  refine ⟨fun path r hr => ?_, fun k hk => ?_, fun i hi => ?_⟩
  · obtain ⟨set, hset⟩ := hr.classOf made
    obtain ⟨fuel, cases, fragments, properties, hm⟩ := hset.made
    refine ⟨set, cases, hset, hm.cases_eq, hm.memberNames_nodup_iff, fun f hf => ?_⟩
    obtain ⟨record, hrecord, htype, hproperties⟩ := properties_of_factories hm.cases_eq hm.factories hf
    refine ⟨record, hrecord, htype, parameterNames_nodup ?_ fun hcls => ?_⟩
    · refine map_of_mapM hproperties fun g p hp => ?_
      rw [propertyFor_attribute hp, RecordCase.parameterName, ← accessors_eq (c.options.pathText path)]
      rfl
    · obtain ⟨g, -, hg⟩ := List.mem_map.mp hcls
      exact hown (by decide) hg
  · obtain ⟨o, ho, hclass⟩ := Context.operation_of_declarations made hk
    refine ⟨o, ho, hclass, parameterNames_nodup (attributes_of_operationClass hclass) fun hself => ?_⟩
    obtain ⟨v, -, hv⟩ := List.mem_map.mp hself
    exact Naming.variableAttribute_ne_self _ hv
  · obtain ⟨t, ht, fields, isOneOf, hbody, hclass⟩ := Context.input_of_declarations made hi
    refine ⟨t, ht, fields, isOneOf, hbody, hclass, parameterNames_nodup (attributes_of_inputClass hclass) fun hself => ?_⟩
    obtain ⟨f, -, hf⟩ := List.mem_map.mp hself
    exact hown (by decide) hf

theorem members_differ_iff_pet :
    petContext.declarations = .ok petDeclarations ∧
      (∀ path r, ClassAt petDeclarations path r → ∃ set cases, petContext.ClassOf path set r ∧
        petContext.casesOf set = .ok cases ∧
        (r.memberNames.Nodup ↔ cases.MembersDiffer set (r.fieldClasses.map (·.name))) ∧
        ∀ f ∈ r.factories, ∃ record ∈ cases.records, f.typename ∈ record.possibleTypes ∧
          ((Property.parameterNames "cls" f.properties).Nodup ↔
            ((ownFields record.fields).map (cases.parameterName set)).Nodup)) ∧
      (∀ k, .operation k ∈ petDeclarations → ∃ o ∈ petContext.operations.values, petContext.operationClass o = .ok k ∧
        ((Property.parameterNames "self" k.parameters).Nodup ↔
          (o.parameters.map fun v => Naming.variableAttribute v.name).Nodup)) ∧
      ∀ i, .input i ∈ petDeclarations → ∃ t ∈ petContext.typesUsed, ∃ fields isOneOf, t.body = .inputObject fields isOneOf ∧
        petContext.inputClass t.name t.description fields = .ok i ∧
        ((Property.parameterNames "self" (i.fields.map (·.property))).Nodup ↔
          (fields.map fun f => Naming.attributeName f.name).Nodup) :=
  have made : petContext.declarations = .ok petDeclarations := eq_ok_of_isSome (by decide +kernel)
  ⟨made, members_differ_iff petContext petDeclarations made⟩

/-! ## Response keys with one attribute -/

/-- A query with two response keys that are alike in snake case. -/
def aliasDocument : Language.Document :=
  [.operation ⟨none, .query, some "Q", [], [], [.field none "cat" [] []
    (some [.field (some "petName") "name" [] [] none, .field (some "pet_name") "lives" [] [] none])]⟩]

/-- The context of the query with the two keys. -/
def aliasContext : Context := (Context.ofDocument namesakeSchema default aliasDocument).toOption.getD default

/-- The classes of the query. -/
def aliasDeclarations : List Declaration := aliasContext.declarations.toOption.getD []

/-- A class with two members of one name, and a factory with two parameters of one name: the keys `petName` and `pet_name` have
the same attribute. -/
theorem members_clash :
    Context.ofDocument namesakeSchema default aliasDocument = .ok aliasContext ∧
      aliasContext.declarations = .ok aliasDeclarations ∧
      ∃ r, ClassAt aliasDeclarations ["QQuery", "Data", "Cat"] r ∧ ¬r.memberNames.Nodup ∧
        r.fields.map (fun a => (a.property.name, a.property.attributeName)) =
          [("petName", "pet_name"), ("pet_name", "pet_name")] ∧
        ∃ f ∈ r.factories, f.name = "make" ∧ Property.parameterNames "cls" f.properties = ["cls", "pet_name", "pet_name"] := by
  have hrun : ∃ k ∈ operationsOf aliasDeclarations, ∃ r ∈ k.data.fieldClasses,
      [k.name, k.data.name] ++ [r.name] = ["QQuery", "Data", "Cat"] ∧ ¬r.memberNames.Nodup ∧
        r.fields.map (fun a => (a.property.name, a.property.attributeName)) =
          [("petName", "pet_name"), ("pet_name", "pet_name")] ∧
        ∃ f ∈ r.factories, f.name = "make" ∧
          Property.parameterNames "cls" f.properties = ["cls", "pet_name", "pet_name"] := by decide +kernel
  obtain ⟨k, hk, r, hr, hpath, hclash⟩ := hrun
  refine ⟨rfl, eq_ok_of_isSome (by decide +kernel), r, ?_, hclash⟩
  rw [← hpath]
  exact (ClassAt.operation (mem_of_operationsOf hk)).field hr

end TypedOperations
