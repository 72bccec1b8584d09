import TypedOperations.Proofs.Declaration.Factories
import TypedOperations.Proofs.Declaration.References

/-!
# Annotations of factories

A factory of a class takes a value for every field of one possible type. For a field that all possible types have, the value is
annotated with the class that is nested for the field. For any other field the annotation names a class inside that of the type
condition on the possible type itself, whether or not there is such a condition: the field may as well have come from a
condition on an interface or from a fragment, and then no class stands at the path that the annotation names. Which classes are
nested in that of a set follows from the set (`SelectionSet.nestedClasses`), and with it which annotations name a class.
-/

namespace TypedOperations

/-! ## Parameters of factories -/

section
variable {c : Context} {set : SelectionSet} {cases : RecordCase} {s : RecordScope}

/-- Where there is one record over one type, its fields are what all types have in common. -/
theorem fields_of_monomorphic (h : c.casesOf set = .ok cases) (hmono : cases.isMonomorphic = true) {record : Record}
    (hrecord : record ∈ cases.records) : record.fields = cases.common.fields := by
  obtain ⟨merged, fields, -, hof, hfields, hcommon⟩ := recordsOf_casesOf h
  obtain ⟨first, rest, own, htypes, hown, hvalues⟩ := hof.led record hrecord
  have hrecords : cases.records = [record] := by
    unfold RecordCase.isMonomorphic at hmono
    split at hmono
    · rename_i r hrecords
      rw [hrecords] at hrecord ⊢
      rw [List.mem_singleton.mp hrecord]
    · cases hmono
  have hlength : record.possibleTypes.length = 1 := by simpa [RecordCase.isMonomorphic, hrecords] using hmono
  have hrest : rest = [] := by simpa [htypes] using hlength
  -- the one type of the record is the one type of the set
  have hperm : [first].Perm set.possibleTypes := by simpa [hrecords, htypes, hrest] using hof.types
  rw [List.singleton_perm.mp hperm] at hown
  rw [hown] at hfields
  cases hfields
  rw [hvalues, hcommon]

/-- A factory of a class has the properties of the fields of the record of its type. -/
theorem properties_of_factories (h : c.casesOf set = .ok cases) {out : List Factory} (hout : s.factories cases = .ok out)
    {f : Factory} (hf : f ∈ out) :
    ∃ r ∈ cases.records, f.typename ∈ r.possibleTypes ∧
      (ownFields r.fields).mapM (s.propertyFor (cases.common.fields.map (·.responseKey)) f.typename) = .ok f.properties := by
  obtain ⟨-, r, hr, htype, hproperties⟩ := (RecordScope.factories_spec hout).2 f hf
  refine ⟨r, hr, htype, ?_⟩
  by_cases hmono : cases.isMonomorphic = true
  · -- the one record has the fields that all types have
    rw [if_pos hmono] at hproperties
    rw [← hproperties]
    refine mapM_congr_mem fun g hg => ?_
    have hkey : g.responseKey ∈ cases.common.fields.map (·.responseKey) := by
      rw [← fields_of_monomorphic h hmono hr]
      exact List.mem_map_of_mem (List.mem_filter.mp hg).1
    rw [RecordScope.propertyFor, if_pos (List.contains_iff_mem.mpr hkey)]
  · rwa [if_neg hmono] at hproperties

end

/-! ## Classes below a class -/

section
variable {ds : List Declaration} {path : List String}

/-- What is declared one step below the end of a path inside a class is nested in a class at that path. -/
theorem ClassAt.exists_nested {rest : List String} {name : String} :
    ∀ {path : List String} {r : RecordClass}, ClassAt ds path r → r.name :: (rest ++ [name]) ∈ r.paths →
      ∃ n, ClassAt ds (path ++ rest) n ∧ name ∈ n.nestedNames := by
  induction rest with
  | nil =>
    intro path r hr h
    exact ⟨r, by simpa using hr, RecordClass.mem_nestedNames.mpr h⟩
  | cons step rest ih =>
    intro path r hr h
    rcases RecordClass.mem_paths.mp h with h | ⟨below, h, ⟨n, hn, hbelow⟩ | ⟨-, hfragments⟩⟩
    · simp at h
    · cases (List.cons.inj h).2
      have hstep : n.name = step := (RecordClass.head_of_mem_paths hbelow).symm
      have hn' : ClassAt ds (path ++ [n.name]) n := (List.mem_append.mp hn).elim hr.condition hr.field
      rw [hstep] at hn'
      obtain ⟨inner, hinner, hname⟩ := ih hn' (by rw [hstep]; exact hbelow)
      exact ⟨inner, by simpa using hinner, hname⟩
    · cases (List.cons.inj h).2
      simp at hfragments

/-- A path that goes on two steps is declared exactly if the second is nested in a class after the first. -/
theorem mem_declaredPaths_iff (hpath : path ≠ []) {step name : String} :
    path ++ [step, name] ∈ declaredPaths ds ↔ ∃ n, ClassAt ds (path ++ [step]) n ∧ name ∈ n.nestedNames := by
  constructor
  · intro h
    obtain ⟨d, hd, h⟩ := List.mem_flatMap.mp h
    obtain ⟨first, more, rfl⟩ := List.exists_cons_of_ne_nil hpath
    cases d with
    | enum e => simp [Declaration.paths] at h
    | input i => simp [Declaration.paths] at h
    | operation k =>
      -- the path goes through the class of the set, which stands inside that of the operation
      obtain ⟨second, rest, hrest⟩ : ∃ second rest, more ++ [step] = second :: rest :=
        List.exists_cons_of_ne_nil (by simp)
      have hsplit : first :: more ++ [step, name] = first :: ((more ++ [step]) ++ [name]) := by simp
      rw [hsplit, hrest] at h
      rcases List.mem_cons.mp h with h | h
      · simp at h
      · obtain ⟨inside, hinside, h⟩ := List.mem_map.mp h
        cases h
        cases RecordClass.head_of_mem_paths hinside
        obtain ⟨n, hn, hname⟩ := (ClassAt.operation hd).exists_nested hinside
        exact ⟨n, by rw [List.cons_append, hrest]; exact hn, hname⟩
    | fragment r =>
      have hsplit : first :: more ++ [step, name] = first :: ((more ++ [step]) ++ [name]) := by simp
      rw [hsplit] at h
      cases RecordClass.head_of_mem_paths h
      obtain ⟨n, hn, hname⟩ := (ClassAt.fragment hd).exists_nested h
      exact ⟨n, by simpa using hn, hname⟩
  · rintro ⟨n, hn, hname⟩
    simpa using hn.declares_nested hname

end

/-! ## Classes nested for a set -/

/-- A fragment is spread directly among the selections of the set. -/
def SelectionSet.spreadsFragment (set : SelectionSet) : Bool :=
  set.selections.any fun
    | .spread _ => true
    | _ => false

/-- The names of the classes for composite fields that all types of a set have in common, by key: made from the keys, and none of
the names of the classes for type conditions and for fragments. -/
def SelectionSet.fieldClassNames (set : SelectionSet) (common : List Field) : Entries String :=
  Naming.distinctClasses ((common.filter (·.type.base.kind.isComposite)).map (·.responseKey))
    ((typeConditions set.selections).names.map Naming.conditionClass ++ if set.spreadsFragment then ["Fragments"] else [])

/-- The classes that are nested for a set whose types have these fields in common, by name and with the set that each is made of:
one for every type condition, one for the fragments if there are any, which is made of no set, and one for every composite
field. -/
def SelectionSet.nestedClasses (set : SelectionSet) (common : List Field) : List (String × Option SelectionSet) :=
  (typeConditions set.selections).map (fun e => (Naming.conditionClass e.1, some e.2.set)) ++
    (if set.spreadsFragment then [("Fragments", none)] else []) ++
    ((ownFields common).filter (·.type.base.kind.isComposite)).map fun f =>
      (((set.fieldClassNames common).get? f.responseKey).getD "", f.selectionSet)

/-- The class of the set has a class of the first name nested in it, which has one of the second name nested in it. -/
def Context.NestsBelow (c : Context) (set : SelectionSet) (first second : String) : Prop :=
  ∃ cases sub inner, c.casesOf set = .ok cases ∧ (first, some sub) ∈ set.nestedClasses cases.common.fields ∧
    c.casesOf sub = .ok inner ∧ second ∈ (sub.nestedClasses inner.common.fields).map Prod.fst

section
variable {c : Context} {ds : List Declaration} {fuel : Nat} {path : List String} {set : SelectionSet} {cases : RecordCase}
  {fragments : Entries Property} {properties : List Property} {r : RecordClass}

/-- The class of a type condition is not named like that of the set of an operation. -/
theorem conditionClass_ne_data (type : String) : Naming.conditionClass type ≠ "Data" := by
  intro h
  have hfirst := congrArg (fun s => s.toList.head?) h
  simp [Naming.conditionClass] at hfirst

theorem SelectionSet.spreadsFragment_iff : set.spreadsFragment = true ↔ ∃ name, .spread name ∈ set.selections := by
  rw [SelectionSet.spreadsFragment, List.any_eq_true]
  constructor
  · rintro ⟨x, hx, hspread⟩
    cases x with
    | spread name => exact ⟨name, hx⟩
    | _ => cases hspread
  · rintro ⟨name, hname⟩
    exact ⟨_, hname, rfl⟩

/-- A class has properties for fragments exactly if its set spreads fragments. -/
theorem Context.Makes.fragments_isEmpty (hm : c.Makes fuel path set cases fragments properties r) :
    fragments.values.isEmpty = !set.spreadsFragment := by
  have hnames := (Context.fragmentProperties_spec hm.fragments_eq).1
  have hspread : (∃ name, name ∈ fragments.names) ↔ set.spreadsFragment = true := by
    rw [SelectionSet.spreadsFragment_iff]
    exact exists_congr fun name => (hnames name).trans (by simp [Entries.names])
  cases fragments with
  | nil =>
    have hnone : set.spreadsFragment = false := by simpa [Entries.names] using hspread
    simp [Entries.values, hnone]
  | cons e rest =>
    have hsome : set.spreadsFragment = true := hspread.mp ⟨e.1, List.mem_cons_self⟩
    simp [Entries.values, hsome]

/-- Composite fields are given the names that follow from the set. -/
theorem Context.Makes.classes_eq (hm : c.Makes fuel path set cases fragments properties r) :
    (c.scopeOf path set cases fragments).classes = set.fieldClassNames cases.common.fields := by
  rw [Context.scopeOf, SelectionSet.fieldClassNames, hm.fragments_isEmpty]
  cases set.spreadsFragment <;> rfl

/-- What follows from the set to be nested in its class is nested there. -/
theorem Context.Makes.nested_of_mem (hm : c.Makes fuel path set cases fragments properties r) {name : String}
    {inner : Option SelectionSet} (h : (name, inner) ∈ set.nestedClasses cases.common.fields) :
    name ∈ r.nestedNames ∧ ∀ sub, inner = some sub →
      ∃ n ∈ r.conditionClasses ++ r.fieldClasses, n.name = name ∧ c.ClassOf (path ++ [n.name]) sub n := by
  rw [RecordClass.nestedNames]
  rcases List.mem_append.mp h with h | h
  · rcases List.mem_append.mp h with h | h
    · obtain ⟨e, he, h⟩ := List.mem_map.mp h
      cases h
      obtain ⟨n, hn, hclass⟩ := exists_of_mapM hm.conditionClasses he
      have hname := (Context.makes_of_recordClass hclass).1
      refine ⟨by simp [← hname, List.mem_map_of_mem hn], ?_⟩
      rintro sub ⟨⟩
      exact ⟨n, List.mem_append_left _ hn, hname, Context.classOf_of_recordClass hclass⟩
    · split at h
      · rename_i hspread
        cases List.mem_singleton.mp h
        have hfragments : r.fragments.isEmpty = false := by rw [hm.fragments, hm.fragments_isEmpty, hspread]; rfl
        exact ⟨by simp [hfragments], by simp⟩
      · cases h
  · obtain ⟨f, hf, h⟩ := List.mem_map.mp h
    cases h
    obtain ⟨hf, hcomposite⟩ := List.mem_filter.mp hf
    obtain ⟨hcommon, hkey⟩ := List.mem_filter.mp hf
    obtain ⟨n, hn, hclass, sub, hsub, hof⟩ := hm.fieldClass_of_common hcommon hcomposite (by simpa using hkey)
    rw [hm.classes_eq] at hclass
    rw [hclass, Option.getD_some]
    refine ⟨by simp [List.mem_map_of_mem hn], ?_⟩
    rintro sub' hsub'
    cases hsub.symm.trans hsub'
    exact ⟨n, List.mem_append_right _ hn, rfl, hof⟩

/-- A class that is nested in the class of a set follows from the set. -/
theorem Context.Makes.mem_of_nested (hm : c.Makes fuel path set cases fragments properties r) {n : RecordClass}
    (hn : n ∈ r.conditionClasses ++ r.fieldClasses) :
    ∃ sub, (n.name, some sub) ∈ set.nestedClasses cases.common.fields ∧ c.ClassOf (path ++ [n.name]) sub n := by
  rcases List.mem_append.mp hn with hn | hn
  · obtain ⟨e, he, hclass⟩ := mem_of_mapM hm.conditionClasses hn
    have hname := (Context.makes_of_recordClass hclass).1
    refine ⟨e.2.set, ?_, Context.classOf_of_recordClass hclass⟩
    exact List.mem_append_left _ (List.mem_append_left _ (List.mem_map.mpr ⟨e, he, by rw [hname]⟩))
  · obtain ⟨f, hf, hcomposite, hname, sub, hsub, hof⟩ := hm.common_of_fieldClass hn
    refine ⟨sub, List.mem_append_right _ (List.mem_map.mpr ⟨f, List.mem_filter.mpr ⟨hf, hcomposite⟩, ?_⟩), hof⟩
    rw [hname, hm.classes_eq, hsub]

/-- The names of the classes nested in the class of a set follow from the set. -/
theorem Context.Makes.mem_nestedNames_iff (hm : c.Makes fuel path set cases fragments properties r) {name : String} :
    name ∈ r.nestedNames ↔ name ∈ (set.nestedClasses cases.common.fields).map Prod.fst := by
  constructor
  · intro h
    have hclass : ∀ n ∈ r.conditionClasses ++ r.fieldClasses, n.name ∈ (set.nestedClasses cases.common.fields).map Prod.fst := by
      intro n hn
      obtain ⟨sub, hsub, -⟩ := hm.mem_of_nested hn
      exact List.mem_map_of_mem (f := Prod.fst) hsub
    rcases List.mem_append.mp h with h | h
    · rcases List.mem_append.mp h with h | h
      · obtain ⟨n, hn, rfl⟩ := List.mem_map.mp h
        exact hclass n (List.mem_append_left _ hn)
      · rw [hm.fragments, hm.fragments_isEmpty] at h
        cases hspread : set.spreadsFragment with
        | false => simp [hspread] at h
        | true =>
          have hname : name = "Fragments" := by simpa [hspread] using h
          simp [SelectionSet.nestedClasses, hspread, hname]
    · obtain ⟨n, hn, rfl⟩ := List.mem_map.mp h
      exact hclass n (List.mem_append_right _ hn)
  · intro h
    obtain ⟨⟨_, inner⟩, he, rfl⟩ := List.mem_map.mp h
    exact (hm.nested_of_mem he).1

/-- A path that goes on two steps from a class is declared exactly if both classes follow from the set of a class at the path. The
class of the set of an operation is no step from a class. -/
theorem declares_below_iff (made : c.declarations = .ok ds) (hpath : path ≠ []) {step name : String} (hstep : step ≠ "Data") :
    path ++ [step, name] ∈ declaredPaths ds ↔
      ∃ r set, ClassAt ds path r ∧ c.ClassOf path set r ∧ c.NestsBelow set step name := by
  rw [mem_declaredPaths_iff hpath]
  constructor
  · rintro ⟨n, hn, hname⟩
    obtain ⟨r, hr, hnested, hstep⟩ : ∃ r, ClassAt ds path r ∧ n ∈ r.conditionClasses ++ r.fieldClasses ∧ n.name = step := by
      generalize hwhole : path ++ [step] = whole at hn
      cases hn with
      | @operation o ho =>
        obtain ⟨_, -, hclass⟩ := Context.operation_of_declarations made ho
        obtain ⟨-, -, -, -, -, hdata⟩ := Context.operationClass_ok hclass
        have hsplit : path ++ [step] = [o.name] ++ [o.data.name] := hwhole
        obtain ⟨-, hlast⟩ := List.append_inj' hsplit rfl
        cases hlast
        exact absurd (Context.makes_of_recordClass hdata).1 hstep
      | fragment =>
        have hlength := congrArg List.length hwhole
        simp [hpath] at hlength
      | condition hr hn =>
        obtain ⟨rfl, hlast⟩ := List.append_inj' hwhole rfl
        cases hlast
        exact ⟨_, hr, List.mem_append_left _ hn, rfl⟩
      | field hr hn =>
        obtain ⟨rfl, hlast⟩ := List.append_inj' hwhole rfl
        cases hlast
        exact ⟨_, hr, List.mem_append_right _ hn, rfl⟩
    obtain ⟨set, hset⟩ := hr.classOf made
    obtain ⟨_, cases, _, _, hm⟩ := hset.made
    obtain ⟨sub, hsub, hof⟩ := hm.mem_of_nested hnested
    obtain ⟨_, inner, _, _, hmsub⟩ := hof.made
    exact ⟨r, set, hr, hset, cases, sub, inner, hm.cases_eq, hstep ▸ hsub, hmsub.cases_eq, hmsub.mem_nestedNames_iff.mp hname⟩
  · rintro ⟨r, set, hr, hset, cases, sub, inner, hcases, hsub, hinner, hname⟩
    obtain ⟨_, cases', _, _, hm⟩ := hset.made
    cases hcases.symm.trans hm.cases_eq
    obtain ⟨n, hn, rfl, hof⟩ := (hm.nested_of_mem hsub).2 sub rfl
    obtain ⟨_, inner', _, _, hmsub⟩ := hof.made
    cases hinner.symm.trans hmsub.cases_eq
    exact ⟨n, (List.mem_append.mp hn).elim hr.condition hr.field, hmsub.mem_nestedNames_iff.mpr hname⟩

end

/-! ## What the annotations name -/

/-- What the annotation of a composite parameter names, in a factory for a type in the class at a path. -/
structure Annotated (c : Context) (ds : List Declaration) (path : List String) (r : RecordClass) (common : List Field)
    (typename : String) (p : Property) : Prop where
  /-- A key that all types have with records for its value: a nested class of this class. -/
  shared : ∀ g ∈ common, g.responseKey = p.name → g.type.base.kind.isComposite = true →
    ∃ n ∈ r.fieldClasses, p.hint.base = c.options.pathText (path ++ [n.name]) ∧ path ++ [n.name] ∈ declaredPaths ds
  /-- A key that all types have, but with other values: a class named after the key, in this class. -/
  unlike : p.name ∈ common.map (·.responseKey) →
    (∀ g ∈ common, g.responseKey = p.name → g.type.base.kind.isComposite = false) →
    p.hint.base = c.options.pathText (path ++ [Naming.recordClass p.name])
  /-- Any other key: a class named after the key, in the class of the type condition on the type of the factory. It is declared
  exactly if both classes follow from a set whose class stands at the path: from its type conditions and the fields that its
  types have in common, and from those of the set that the outer one is made of. -/
  particular : p.name ∉ common.map (·.responseKey) →
    p.hint.base = c.options.pathText (path ++ [Naming.conditionClass typename, Naming.recordClass p.name]) ∧
      (path ++ [Naming.conditionClass typename, Naming.recordClass p.name] ∈ declaredPaths ds ↔
        ∃ r' set, ClassAt ds path r' ∧ c.ClassOf path set r' ∧
          c.NestsBelow set (Naming.conditionClass typename) (Naming.recordClass p.name))

section
variable {c : Context} {ds : List Declaration} {fuel : Nat} {path : List String} {set : SelectionSet} {cases : RecordCase}
  {fragments : Entries Property} {properties : List Property} {r : RecordClass}

/-- The record of a field without a class is named after the key. -/
theorem recordName_without {o : Options} (hpath : path ≠ []) (hscope : o.pathText path ≠ "") (g : Field) :
    g.recordName (o.pathText path) "" = o.pathText (path ++ [Naming.recordClass g.responseKey]) := by
  rw [Options.pathText_snoc _ hpath, Field.recordName, within, if_neg (by simpa using hscope)]
  rfl

/-- The property of a field of a type that not all types have names a class in that of the type condition. -/
theorem hint_of_particular (hpath : path ≠ []) {common : List String} {typename : String} {g : Field} {p : Property}
    (h : (c.scopeOf path set cases fragments).propertyFor common typename g = .ok p) (hkey : g.responseKey ∉ common)
    (hcomposite : p.isComposite = true) :
    p.hint.base = c.options.pathText (path ++ [Naming.conditionClass typename, Naming.recordClass g.responseKey]) := by
  rw [RecordScope.propertyFor, if_neg (by simpa using hkey)] at h
  have hgc : g.type.base.kind.isComposite = true := (Options.fieldProperty_ok h).2.2.symm.trans hcomposite
  have htwo : path ++ [Naming.conditionClass typename, Naming.recordClass g.responseKey] =
      path ++ [Naming.conditionClass typename] ++ [Naming.recordClass g.responseKey] := by simp
  have hscope : (c.scopeOf path set cases fragments).qualifiedName ++ "." ++ Naming.conditionClass typename =
      c.options.pathText (path ++ [Naming.conditionClass typename]) := (Options.pathText_snoc _ hpath _).symm
  have hhint := (Options.fieldProperty_names h hgc).2
  rw [hscope, recordName_without (by simp) (Options.pathText_snoc_ne_empty _ hpath _)] at hhint
  rw [htwo]
  exact hhint (Options.pathText_snoc_ne_empty _ (by simp) _)

/-- The property of a field whose key all types have names a class in the class at hand: the nested class of the key, or one
named after the key if there is none. -/
theorem hint_of_common (hpath : path ≠ []) (hscope : c.options.pathText path ≠ "") {g : Field} {p : Property}
    (h : (c.scopeOf path set cases fragments).property g = .ok p) (hcomposite : p.isComposite = true) :
    p.hint.base = c.options.pathText (path ++
      [((c.scopeOf path set cases fragments).classes.get? g.responseKey).getD (Naming.recordClass g.responseKey)]) := by
  have hgc : g.type.base.kind.isComposite = true := (Options.fieldProperty_ok h).2.2.symm.trans hcomposite
  have hhint := (Options.fieldProperty_names h hgc).2
  cases hclass : (c.scopeOf path set cases fragments).classes.get? g.responseKey with
  | some name =>
    rw [hclass, Option.getD_some] at hhint
    have hrecord : g.recordName (c.scopeOf path set cases fragments).qualifiedName name = c.options.pathText (path ++ [name]) :=
      Context.recordName_eq hpath hscope hclass
    rw [hrecord] at hhint
    exact hhint (Options.pathText_snoc_ne_empty _ hpath _)
  | none =>
    rw [hclass, Option.getD_none] at hhint
    have hrecord : g.recordName (c.scopeOf path set cases fragments).qualifiedName "" =
        c.options.pathText (path ++ [Naming.recordClass g.responseKey]) := recordName_without hpath hscope g
    rw [hrecord] at hhint
    exact hhint (Options.pathText_snoc_ne_empty _ hpath _)

end

/-- What factories annotate composite parameters with. Take a class of a selection set in a module, which has a name to be
referred to. It is the class of a set with a record case. A composite parameter of one of its factories whose key all possible
types have, with records for its value, is annotated with a declared class, which is nested in the class at hand. A parameter
whose key not all possible types have is annotated with a class named after the key inside that of the type condition on the
type of the factory; such a class is declared exactly if it follows from the type conditions and common fields of a set whose
class stands at the path, and of the set of the class nested there for that condition. -/
theorem factory_annotations (c : Context) (ds : List Declaration) (made : c.declarations = .ok ds) (path : List String)
    (r : RecordClass) (hr : ClassAt ds path r) (named : r.qualifiedName ≠ "") :
    ∃ set cases, c.ClassOf path set r ∧ c.casesOf set = .ok cases ∧
      ∀ f ∈ r.factories, ∀ p ∈ f.properties, p.isComposite = true →
        Annotated c ds path r cases.common.fields f.typename p := by
  obtain ⟨set, hset⟩ := hr.classOf made
  obtain ⟨fuel, cases, fragments, properties, hm⟩ := hset.made
  refine ⟨set, cases, hset, hm.cases_eq, fun f hf p hp hcomposite => ?_⟩
  have hpath := hr.path_ne_nil
  rw [hm.qualifiedName] at named
  obtain ⟨record, -, -, hproperties⟩ := properties_of_factories hm.cases_eq hm.factories hf
  obtain ⟨g, hg, hproperty⟩ := mem_of_mapM hproperties hp
  have hkey : g.responseKey ≠ "__typename" := by simpa using (List.mem_filter.mp hg).2
  have hname : p.name = g.responseKey := RecordScope.propertyFor_name hproperty
  -- a key that all types have is annotated by the scope of the class
  have hcommon : g.responseKey ∈ cases.common.fields.map (·.responseKey) → p.hint.base = c.options.pathText (path ++
      [((c.scopeOf path set cases fragments).classes.get? g.responseKey).getD (Naming.recordClass g.responseKey)]) := by
    intro hin
    rw [RecordScope.propertyFor, if_pos (List.contains_iff_mem.mpr hin)] at hproperty
    exact hint_of_common hpath named hproperty hcomposite
  refine ⟨?_, ?_, ?_⟩
  · intro g' hg' hsame hg'c
    rw [hname] at hsame
    obtain ⟨n, hn, hclass, -⟩ := hm.fieldClass_of_common hg' hg'c (hsame ▸ hkey)
    have hhint := hcommon (hsame ▸ List.mem_map_of_mem hg')
    rw [← hsame, hclass, Option.getD_some] at hhint
    exact ⟨n, hn, hhint, hr.declares_nested (List.mem_append_right _ (List.mem_map_of_mem hn))⟩
  · intro hin hplain
    rw [hname] at hin hplain ⊢
    have hnone : (c.scopeOf path set cases fragments).classes.get? g.responseKey = none := by
      rw [Option.eq_none_iff_forall_ne_some]
      intro name hclass
      obtain ⟨g', hg', hg'c, hsame⟩ := Context.common_of_class hclass
      rw [hplain g' hg' hsame] at hg'c
      cases hg'c
    rw [hcommon hin, hnone, Option.getD_none]
  · intro hout
    rw [hname] at hout ⊢
    exact ⟨hint_of_particular hpath hproperty hout hcomposite, declares_below_iff made hpath (conditionClass_ne_data _)⟩

/-! ## Owners of pets -/

/-- Pets, of which only dogs are owned by a person. -/
def ownersSchema : Schema where
  types :=
    [⟨"String", none, .scalar⟩, ⟨"Int", none, .scalar⟩,
     ⟨"Query", none, .object [] [⟨"pet", none, [], .named "Pet" false, false⟩]⟩,
     ⟨"Owned", none, .interface [] [⟨"owner", none, [], .named "Person" false, false⟩]⟩,
     ⟨"Cat", none, .object [] [⟨"lives", none, [], .named "Int" false, false⟩]⟩,
     ⟨"Dog", none, .object ["Owned"] [⟨"owner", none, [], .named "Person" false, false⟩]⟩,
     ⟨"Person", none, .object [] [⟨"name", none, [], .named "String" false, false⟩]⟩,
     ⟨"Pet", none, .union ["Cat", "Dog"]⟩]
  query := some "Query"
  mutation := none
  subscription := none
  directives := []

/-- A query for the owner of a pet, if it is owned. -/
def ownersDocument : Language.Document :=
  [.operation ⟨none, .query, some "Owners", [], [], [.field none "pet" [] [] (some
    [.inline (some "Owned") [] [.field none "owner" [] [] (some [.field none "name" [] [] none])]])]⟩]

/-- The context of the query for owners. -/
def ownersContext : Context := (Context.ofDocument ownersSchema default ownersDocument).toOption.getD default

/-- The classes of the query for owners. -/
def ownersDeclarations : List Declaration := ownersContext.declarations.toOption.getD []

theorem ownersContext_declarations : ownersContext.declarations = .ok ownersDeclarations :=
  eq_ok_of_isSome (by decide +kernel)

/-- The classes of the fields of operations stand below those of their sets. -/
theorem classAt_of_operationsOf {ds : List Declaration} {k : OperationClass} {n : RecordClass} (hk : k ∈ operationsOf ds)
    (hn : n ∈ k.data.fieldClasses) : ClassAt ds [k.name, k.data.name, n.name] n :=
  (ClassAt.operation (mem_of_operationsOf hk)).field hn

theorem factory_annotations_owners :
    ownersContext.declarations = .ok ownersDeclarations ∧
      ∃ r, ClassAt ownersDeclarations ["OwnersQuery", "Data", "Pet"] r ∧ r.qualifiedName ≠ "" ∧
        ∃ set cases, ownersContext.ClassOf ["OwnersQuery", "Data", "Pet"] set r ∧ ownersContext.casesOf set = .ok cases ∧
          ∀ f ∈ r.factories, ∀ p ∈ f.properties, p.isComposite = true →
            Annotated ownersContext ownersDeclarations ["OwnersQuery", "Data", "Pet"] r cases.common.fields f.typename p := by
  have hpet : ∃ k ∈ operationsOf ownersDeclarations, ∃ n ∈ k.data.fieldClasses,
      [k.name, k.data.name, n.name] = ["OwnersQuery", "Data", "Pet"] ∧ n.qualifiedName ≠ "" := by decide +kernel
  obtain ⟨k, hk, n, hn, hpath, hname⟩ := hpet
  have hat : ClassAt ownersDeclarations ["OwnersQuery", "Data", "Pet"] n := hpath ▸ classAt_of_operationsOf hk hn
  exact ⟨ownersContext_declarations, n, hat, hname,
    factory_annotations ownersContext ownersDeclarations ownersContext_declarations _ n hat hname⟩

/-- A factory whose annotation names no class. The owner of a dog comes from a condition on what is owned, so its class is nested
in the class of that condition; but the factory for dogs names one in the class of a condition on dogs, and there is none. -/
theorem factory_annotation_undeclared :
    Context.ofDocument ownersSchema default ownersDocument = .ok ownersContext ∧
      ownersContext.declarations = .ok ownersDeclarations ∧
      (∃ r, ClassAt ownersDeclarations ["OwnersQuery", "Data", "Pet"] r ∧
        ∃ f ∈ r.factories, f.name = "make_dog" ∧ ∃ p ∈ f.properties, p.isComposite = true ∧
          p.hint.base = "OwnersQuery.Data.Pet.AsDog.Owner" ∧
          ∀ path ∈ declaredPaths ownersDeclarations, ownersContext.options.pathText path ≠ p.hint.base) ∧
      ["OwnersQuery", "Data", "Pet", "AsOwned", "Owner"] ∈ declaredPaths ownersDeclarations := by
  have hpet : ∃ k ∈ operationsOf ownersDeclarations, ∃ n ∈ k.data.fieldClasses,
      [k.name, k.data.name, n.name] = ["OwnersQuery", "Data", "Pet"] ∧
        ∃ f ∈ n.factories, f.name = "make_dog" ∧ ∃ p ∈ f.properties, p.isComposite = true ∧
          p.hint.base = "OwnersQuery.Data.Pet.AsDog.Owner" ∧
          ∀ path ∈ declaredPaths ownersDeclarations, ownersContext.options.pathText path ≠ p.hint.base := by decide +kernel
  obtain ⟨k, hk, n, hn, hpath, hfactory⟩ := hpet
  exact ⟨rfl, ownersContext_declarations, ⟨n, hpath ▸ classAt_of_operationsOf hk hn, hfactory⟩, by decide +kernel⟩

end TypedOperations
