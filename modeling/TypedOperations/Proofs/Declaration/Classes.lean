import TypedOperations.Declaration.Build
import TypedOperations.Proofs.Naming
import TypedOperations.Proofs.Selection.Cases

/-!
# The classes of a module

A module is a tree of classes. Every class stands at a path, the names of the classes around it and its own, and is seen from
anywhere in the module under the text of its path. `declaredPaths` lists the paths of all classes in the order in which they are
written; `ClassAt` gives the classes of selection sets among them. What the class of a set consists of is said once
(`Context.Makes`), and every class of a module is the class of a set (`ClassAt.classOf`).
-/

namespace TypedOperations

/-! ## Paths -/

/-- The text that refers to the class at a path from anywhere in the module. -/
def Options.pathText (o : Options) (path : List String) : String :=
  o.qualify (String.intercalate "." path)

/-- The text of a longer path goes on after a dot. -/
theorem Options.pathText_snoc (o : Options) {path : List String} (h : path ≠ []) (name : String) :
    o.pathText (path ++ [name]) = o.pathText path ++ "." ++ name := by
  have hjoin : String.intercalate "." (path ++ [name]) = String.intercalate "." path ++ "." ++ name := by
    rw [String.intercalate_append_of_ne_nil h (List.cons_ne_nil _ _), String.intercalate_singleton]
  unfold pathText qualify
  cases o.wrapper with
  | none => exact hjoin
  | some w => simp only [hjoin, String.append_assoc]

theorem Options.pathText_snoc_ne_empty (o : Options) {path : List String} (h : path ≠ []) (name : String) :
    o.pathText (path ++ [name]) ≠ "" := by
  rw [pathText_snoc o h]
  simp [String.append_eq_empty_iff]

/-- The names of the classes that are nested directly in a class, as they are written. -/
def RecordClass.nestedNames (r : RecordClass) : List String :=
  r.conditionClasses.map (·.name) ++ (if r.fragments.isEmpty then [] else ["Fragments"]) ++ r.fieldClasses.map (·.name)

mutual

/-- The paths of a class and of all classes nested in it. -/
def RecordClass.paths : RecordClass → List (List String)
  | ⟨name, _, _, _, _, _, _, _, _, fragments, conditionClasses, fieldClasses⟩ =>
    [name] :: (pathsOfAll conditionClasses ++ (if fragments.isEmpty then [] else [["Fragments"]]) ++
      pathsOfAll fieldClasses).map (name :: ·)

/-- The paths of classes one after another, with the classes nested in them. -/
def pathsOfAll : List RecordClass → List (List String)
  | [] => []
  | c :: rest => c.paths ++ pathsOfAll rest

end

/-- The name of a top-level class. -/
def Declaration.name : Declaration → String
  | .enum c => c.name
  | .input c => c.name
  | .operation c => c.name
  | .fragment c => c.name

/-- The paths of a top-level class and of all classes nested in it. -/
def Declaration.paths : Declaration → List (List String)
  | .enum c => [[c.name]]
  | .input c => [[c.name]]
  | .operation c => [c.name] :: c.data.paths.map (c.name :: ·)
  | .fragment c => c.paths

/-- The paths of all classes of a module, without the class that all of them may be nested in. -/
def declaredPaths (ds : List Declaration) : List (List String) :=
  ds.flatMap Declaration.paths

/-- The classes of operations in a module. -/
def operationsOf (ds : List Declaration) : List OperationClass :=
  ds.filterMap fun
    | .operation k => some k
    | _ => none

theorem mem_of_operationsOf {ds : List Declaration} {k : OperationClass} (h : k ∈ operationsOf ds) : .operation k ∈ ds := by
  obtain ⟨d, hd, hk⟩ := List.mem_filterMap.mp h
  cases d with
  | operation k' =>
    cases hk
    exact hd
  | _ => cases hk

/-- The classes of selection sets in a module, each at its path. -/
inductive ClassAt (ds : List Declaration) : List String → RecordClass → Prop where
  | operation {o : OperationClass} : .operation o ∈ ds → ClassAt ds [o.name, o.data.name] o.data
  | fragment {r : RecordClass} : .fragment r ∈ ds → ClassAt ds [r.name] r
  | condition {path : List String} {r n : RecordClass} :
      ClassAt ds path r → n ∈ r.conditionClasses → ClassAt ds (path ++ [n.name]) n
  | field {path : List String} {r n : RecordClass} :
      ClassAt ds path r → n ∈ r.fieldClasses → ClassAt ds (path ++ [n.name]) n

section
variable {r : RecordClass} {rest : List String}

theorem mem_pathsOfAll {cs : List RecordClass} {path : List String} : path ∈ pathsOfAll cs ↔ ∃ c ∈ cs, path ∈ c.paths := by
  induction cs with
  | nil => simp [pathsOfAll]
  | cons c others ih => simp [pathsOfAll, ih]

/-- The paths inside a class go through the classes nested in it. -/
theorem RecordClass.mem_paths {path : List String} :
    path ∈ r.paths ↔ path = [r.name] ∨ ∃ rest, path = r.name :: rest ∧
      ((∃ n ∈ r.conditionClasses ++ r.fieldClasses, rest ∈ n.paths) ∨ r.fragments ≠ [] ∧ rest = ["Fragments"]) := by
  obtain ⟨name, _, _, _, _, _, _, _, _, fragments, conditionClasses, fieldClasses⟩ := r
  simp only [RecordClass.paths, List.mem_cons, List.mem_map, List.mem_append, mem_pathsOfAll]
  constructor
  · rintro (h | ⟨rest, (⟨n, hn, hrest⟩ | hfragments) | ⟨n, hn, hrest⟩, rfl⟩)
    · exact Or.inl h
    · exact Or.inr ⟨rest, rfl, Or.inl ⟨n, Or.inl hn, hrest⟩⟩
    · cases fragments with
      | nil => simp at hfragments
      | cons p ps => exact Or.inr ⟨rest, rfl, Or.inr ⟨List.cons_ne_nil _ _, by simpa using hfragments⟩⟩
    · exact Or.inr ⟨rest, rfl, Or.inl ⟨n, Or.inr hn, hrest⟩⟩
  · rintro (h | ⟨rest, rfl, ⟨n, hn | hn, hrest⟩ | ⟨hfragments, rfl⟩⟩)
    · exact Or.inl h
    · exact Or.inr ⟨rest, Or.inl (Or.inl ⟨n, hn, hrest⟩), rfl⟩
    · exact Or.inr ⟨rest, Or.inr ⟨n, hn, hrest⟩, rfl⟩
    · exact Or.inr ⟨["Fragments"], Or.inl (Or.inr (by simp [hfragments])), rfl⟩

theorem RecordClass.name_mem_paths (r : RecordClass) : [r.name] ∈ r.paths :=
  RecordClass.mem_paths.mpr (Or.inl rfl)

/-- Every path inside a class starts with its name. -/
theorem RecordClass.head_of_mem_paths {name : String} (h : name :: rest ∈ r.paths) : name = r.name := by
  rcases RecordClass.mem_paths.mp h with h | ⟨_, h, -⟩ <;> exact (List.cons.inj h).1

/-- The classes nested directly in a class are those one step below it. -/
theorem RecordClass.mem_nestedNames {name : String} : name ∈ r.nestedNames ↔ [r.name, name] ∈ r.paths := by
  rw [RecordClass.mem_paths]
  simp only [RecordClass.nestedNames, List.mem_append, List.mem_map]
  constructor
  · rintro ((⟨n, hn, rfl⟩ | hfragments) | ⟨n, hn, rfl⟩)
    · exact Or.inr ⟨[n.name], rfl, Or.inl ⟨n, Or.inl hn, n.name_mem_paths⟩⟩
    · cases hf : r.fragments with
      | nil => simp [hf] at hfragments
      | cons p ps => exact Or.inr ⟨[name], rfl, Or.inr ⟨List.cons_ne_nil _ _, by simpa [hf] using hfragments⟩⟩
    · exact Or.inr ⟨[n.name], rfl, Or.inl ⟨n, Or.inr hn, n.name_mem_paths⟩⟩
  · rintro (h | ⟨rest, h, ⟨n, hn | hn, hrest⟩ | ⟨hfragments, rfl⟩⟩)
    · simp at h
    · cases (List.cons.inj h).2
      exact Or.inl (Or.inl ⟨n, hn, (RecordClass.head_of_mem_paths hrest).symm⟩)
    · cases (List.cons.inj h).2
      exact Or.inr ⟨n, hn, (RecordClass.head_of_mem_paths hrest).symm⟩
    · cases (List.cons.inj h).2
      exact Or.inl (Or.inr (by simp [hfragments]))

end

section
variable {ds : List Declaration} {path : List String} {r : RecordClass}

/-- What is declared inside a class of the module is declared in the module. -/
theorem ClassAt.declares (h : ClassAt ds path r) : ∀ {rest}, r.name :: rest ∈ r.paths → path ++ rest ∈ declaredPaths ds := by
  have hnested : ∀ {r n : RecordClass} {rest}, n ∈ r.conditionClasses ++ r.fieldClasses → n.name :: rest ∈ n.paths →
      r.name :: n.name :: rest ∈ r.paths :=
    fun hn hrest => RecordClass.mem_paths.mpr (Or.inr ⟨_, rfl, Or.inl ⟨_, hn, hrest⟩⟩)
  induction h with
  | @operation o ho =>
    intro rest hrest
    refine List.mem_flatMap.mpr ⟨_, ho, List.mem_cons_of_mem _ ?_⟩
    exact List.mem_map.mpr ⟨_, hrest, rfl⟩
  | fragment hr => exact fun hrest => List.mem_flatMap.mpr ⟨_, hr, hrest⟩
  | condition _ hn ih =>
    intro rest hrest
    rw [List.append_assoc]
    exact ih (hnested (List.mem_append_left _ hn) hrest)
  | field _ hn ih =>
    intro rest hrest
    rw [List.append_assoc]
    exact ih (hnested (List.mem_append_right _ hn) hrest)

/-- A class that is nested directly in a class of the module is declared at the path one name longer. -/
theorem ClassAt.declares_nested (h : ClassAt ds path r) {name : String} (hname : name ∈ r.nestedNames) :
    path ++ [name] ∈ declaredPaths ds :=
  h.declares (RecordClass.mem_nestedNames.mp hname)

theorem ClassAt.path_ne_nil (h : ClassAt ds path r) : path ≠ [] := by
  cases h <;> simp

end

/-! ## What a class is made of -/

/-- The scope of the properties of the class of a set at a path. -/
def Context.scopeOf (c : Context) (path : List String) (set : SelectionSet) (cases : RecordCase)
    (fragments : Entries Property) : RecordScope where
  options := c.options
  qualifiedName := c.options.pathText path
  classes :=
    Naming.distinctClasses ((cases.common.fields.filter (·.type.base.kind.isComposite)).map (·.responseKey))
      ((typeConditions set.selections).names.map Naming.conditionClass ++
        (if fragments.values.isEmpty then [] else ["Fragments"]))
  taken :=
    ((typeConditions set.selections).values.map fun t =>
      Options.conditionProperty t.type t.set (c.options.pathText path)).map (·.attributeName)

/-- The class of a composite property under the classes in `path`. -/
def Context.fieldClass (c : Context) (fuel : Nat) (path : List String) (s : RecordScope) (p : Property) :
    Except Fault RecordClass :=
  match p.selectionSet with
  | some sub => c.recordClass fuel path {} ((s.classes.get? p.name).getD "") sub
  | none => .error (.noSelectionSet p.name s.qualifiedName)

/-- A class is what is made of a set for a path. -/
def Context.ClassOf (c : Context) (path : List String) (set : SelectionSet) (r : RecordClass) : Prop :=
  ∃ fuel scope role, path = scope ++ [r.name] ∧ c.recordClass fuel scope role r.name set = .ok r

/-- What the class of a set at a path consists of, with its record case, the properties of the fragments spread in it and those
of the fields that all its types have. -/
structure Context.Makes (c : Context) (fuel : Nat) (path : List String) (set : SelectionSet) (cases : RecordCase)
    (fragments : Entries Property) (properties : List Property) (r : RecordClass) : Prop where
  cases_eq : c.casesOf set = .ok cases
  fragments_eq : c.fragmentProperties set [] set.selections = .ok fragments
  properties_eq : (ownFields cases.common.fields).mapM (c.scopeOf path set cases fragments).property = .ok properties
  selections : descriptorsOf c.options (c.scopeOf path set cases fragments).classes set.selections = .ok r.selections
  factories : (c.scopeOf path set cases fragments).factories cases = .ok r.factories
  fields : properties.mapM c.options.fieldAccessor = .ok r.fields
  conditionClasses : (typeConditions set.selections).mapM
    (fun e => c.recordClass fuel path {} (Naming.conditionClass e.1) e.2.set) = .ok r.conditionClasses
  fieldClasses : (properties.filter (·.isComposite)).mapM (c.fieldClass fuel path (c.scopeOf path set cases fragments)) =
    .ok r.fieldClasses
  qualifiedName : r.qualifiedName = c.options.pathText path
  conditions : r.conditions =
    (typeConditions set.selections).values.map fun t => Options.conditionProperty t.type t.set (c.options.pathText path)
  fragments : r.fragments = fragments.values

section
variable {c : Context} {fuel : Nat} {scope : List String} {role : RecordRole} {name : String} {set : SelectionSet}
  {r : RecordClass}

/-- The class of a set consists of its parts. -/
theorem Context.makes_of_recordClass (h : c.recordClass fuel scope role name set = .ok r) :
    r.name = name ∧ r.source = role.source ∧
      ∃ fewer cases fragments properties, c.Makes fewer (scope ++ [name]) set cases fragments properties r := by
  cases fuel with
  | zero => cases h
  | succ fewer =>
    obtain ⟨merged, hm, h⟩ := bind_eq_ok.mp h
    obtain ⟨cases, hc, h⟩ := bind_eq_ok.mp h
    obtain ⟨fragments, hf, h⟩ := bind_eq_ok.mp h
    obtain ⟨properties, hp, h⟩ := bind_eq_ok.mp h
    obtain ⟨selections, hs, h⟩ := bind_eq_ok.mp h
    obtain ⟨factories, hfac, h⟩ := bind_eq_ok.mp h
    obtain ⟨fields, hfields, h⟩ := bind_eq_ok.mp h
    obtain ⟨conditionClasses, hcc, h⟩ := bind_eq_ok.mp h
    obtain ⟨fieldClasses, hfc, h⟩ := bind_eq_ok.mp h
    cases pure_eq_ok.mp h
    exact ⟨rfl, rfl, fewer, cases, fragments, properties, bind_eq_ok.mpr ⟨merged, hm, hc⟩, hf, hp, hs, hfac, hfields, hcc, hfc,
      rfl, rfl, rfl⟩

theorem Context.classOf_of_recordClass (h : c.recordClass fuel scope role name set = .ok r) :
    c.ClassOf (scope ++ [r.name]) set r := by
  have hname : r.name = name := (Context.makes_of_recordClass h).1
  exact ⟨fuel, scope, role, rfl, hname ▸ h⟩

theorem Context.ClassOf.made {path : List String} (h : c.ClassOf path set r) :
    ∃ fuel cases fragments properties, c.Makes fuel path set cases fragments properties r := by
  obtain ⟨fuel, scope, role, rfl, h⟩ := h
  exact (Context.makes_of_recordClass h).2.2

/-- The class of a composite property has the name that is given to its key, and is made of the sub-selections. -/
theorem Context.fieldClass_ok {path : List String} {s : RecordScope} {p : Property} (h : c.fieldClass fuel path s p = .ok r) :
    r.name = (s.classes.get? p.name).getD "" ∧ ∃ sub, p.selectionSet = some sub ∧ c.ClassOf (path ++ [r.name]) sub r := by
  unfold Context.fieldClass at h
  split at h
  · rename_i sub hsub
    exact ⟨(Context.makes_of_recordClass h).1, sub, hsub, Context.classOf_of_recordClass h⟩
  · cases h

/-- The class of an operation has its text, names the classes of the fragments that it reaches, and has the class of its set in
it. It has the identifier of the operation if operations have identifiers. -/
theorem Context.operationClass_ok {o : Operation} {k : OperationClass} (h : c.operationClass o = .ok k) :
    ∃ reached, c.fragmentsReached o.set = .ok reached ∧
      k.source = o.source ∧
      k.fragments = reached.map (fun f => c.options.qualify (Naming.fragmentClass f)) ∧
      (if c.options.operationIds then ∃ found, c.operationId o reached = .ok found ∧ k.identifier = some found.2
        else k.identifier = none) ∧
      c.recordClass c.depthBound [k.name] {} "Data" o.set = .ok k.data := by
  obtain ⟨⟨name, base⟩, -, h⟩ := bind_eq_ok.mp h
  obtain ⟨reached, hreached, h⟩ := bind_eq_ok.mp h
  refine ⟨reached, hreached, ?_⟩
  cases hids : c.options.operationIds with
  | false =>
    simp only [hids, Bool.false_eq_true, if_false] at h ⊢
    obtain ⟨identifier, hid, h⟩ := bind_eq_ok.mp h
    obtain ⟨parameters, -, h⟩ := bind_eq_ok.mp h
    obtain ⟨data, hdata, h⟩ := bind_eq_ok.mp h
    cases pure_eq_ok.mp hid
    cases pure_eq_ok.mp h
    exact ⟨rfl, rfl, rfl, hdata⟩
  | true =>
    simp only [hids, if_true] at h ⊢
    obtain ⟨identifier, hid, h⟩ := bind_eq_ok.mp h
    obtain ⟨parameters, -, h⟩ := bind_eq_ok.mp h
    obtain ⟨data, hdata, h⟩ := bind_eq_ok.mp h
    obtain ⟨found, hfound, hid⟩ := map_eq_ok.mp hid
    cases pure_eq_ok.mp h
    exact ⟨rfl, rfl, ⟨found, hfound, hid.symm⟩, hdata⟩

/-- The declarations of a context: enums and input objects, then a class for every operation, then one for every fragment. -/
theorem Context.declarations_ok {ds : List Declaration} (h : c.declarations = .ok ds) :
    ∃ types operations fragments, ds = types ++ operations.map .operation ++ fragments.map .fragment ∧
      (∀ d ∈ types, (∃ e, d = .enum e) ∨ ∃ i, d = .input i) ∧
      c.operations.values.mapM c.operationClass = .ok operations ∧
      c.fragments.values.mapM c.fragmentClass = .ok fragments := by
  obtain ⟨types, ht, h⟩ := bind_eq_ok.mp h
  obtain ⟨operations, ho, h⟩ := bind_eq_ok.mp h
  obtain ⟨fragments, hf, h⟩ := bind_eq_ok.mp h
  refine ⟨types, operations, fragments, (pure_eq_ok.mp h).symm, fun d hd => ?_, ho, hf⟩
  obtain ⟨t, -, ht⟩ := mem_of_filterMapM ht hd
  unfold Context.typeClass at ht
  split at ht
  · obtain ⟨e, -, ht⟩ := bind_eq_ok.mp ht
    cases pure_eq_ok.mp ht
    exact Or.inl ⟨e, rfl⟩
  · obtain ⟨i, -, ht⟩ := bind_eq_ok.mp ht
    cases pure_eq_ok.mp ht
    exact Or.inr ⟨i, rfl⟩
  · cases ht

/-- A fragment of the context has a class in the module. -/
theorem Context.exists_fragmentClass {ds : List Declaration} (h : c.declarations = .ok ds) {f : Fragment}
    (hf : f ∈ c.fragments.values) : ∃ r, .fragment r ∈ ds ∧ c.fragmentClass f = .ok r := by
  obtain ⟨types, operations, fragments, rfl, -, -, hfragments⟩ := Context.declarations_ok h
  obtain ⟨r, hr, hfr⟩ := exists_of_mapM hfragments hf
  exact ⟨r, List.mem_append_right _ (List.mem_map_of_mem hr), hfr⟩

/-- An operation of the context has a class in the module. -/
theorem Context.exists_operationClass {ds : List Declaration} (h : c.declarations = .ok ds) {o : Operation}
    (ho : o ∈ c.operations.values) : ∃ k, .operation k ∈ ds ∧ c.operationClass o = .ok k := by
  obtain ⟨types, operations, fragments, rfl, -, hoperations, -⟩ := Context.declarations_ok h
  obtain ⟨k, hk, hok⟩ := exists_of_mapM hoperations ho
  exact ⟨k, List.mem_append_left _ (List.mem_append_right _ (List.mem_map_of_mem hk)), hok⟩

/-- Every class of an operation in the module is made for an operation of the context. -/
theorem Context.operation_of_declarations {ds : List Declaration} (h : c.declarations = .ok ds) {k : OperationClass}
    (hk : .operation k ∈ ds) : ∃ o ∈ c.operations.values, c.operationClass o = .ok k := by
  obtain ⟨types, operations, fragments, rfl, htypes, hoperations, -⟩ := Context.declarations_ok h
  rcases List.mem_append.mp hk with hk | hk
  · rcases List.mem_append.mp hk with hk | hk
    · rcases htypes _ hk with ⟨_, he⟩ | ⟨_, he⟩ <;> cases he
    · obtain ⟨k', hk', he⟩ := List.mem_map.mp hk
      cases he
      exact mem_of_mapM hoperations hk'
  · obtain ⟨_, -, he⟩ := List.mem_map.mp hk
    cases he

/-- Every class of a fragment in the module is made for a fragment of the context. -/
theorem Context.fragment_of_declarations {ds : List Declaration} (h : c.declarations = .ok ds) (hr : .fragment r ∈ ds) :
    ∃ f ∈ c.fragments.values, c.fragmentClass f = .ok r := by
  obtain ⟨types, operations, fragments, rfl, htypes, -, hfragments⟩ := Context.declarations_ok h
  rcases List.mem_append.mp hr with hr | hr
  · rcases List.mem_append.mp hr with hr | hr
    · rcases htypes _ hr with ⟨_, he⟩ | ⟨_, he⟩ <;> cases he
    · obtain ⟨_, -, he⟩ := List.mem_map.mp hr
      cases he
  · obtain ⟨r', hr', he⟩ := List.mem_map.mp hr
    cases he
    exact mem_of_mapM hfragments hr'

/-- Every class of a selection set in the module is the class of a set, at its path. -/
theorem ClassAt.classOf {ds : List Declaration} (h : c.declarations = .ok ds) {path : List String} (hr : ClassAt ds path r) :
    ∃ set, c.ClassOf path set r := by
  induction hr with
  | operation ho =>
    obtain ⟨o, -, ho⟩ := Context.operation_of_declarations h ho
    obtain ⟨-, -, -, -, -, hdata⟩ := Context.operationClass_ok ho
    exact ⟨o.set, Context.classOf_of_recordClass hdata⟩
  | fragment hf =>
    obtain ⟨f, -, hf⟩ := Context.fragment_of_declarations h hf
    exact ⟨f.set, Context.classOf_of_recordClass hf⟩
  | condition _ hn ih =>
    obtain ⟨set, hset⟩ := ih
    obtain ⟨fuel, cases, fragments, properties, hm⟩ := hset.made
    obtain ⟨e, -, he⟩ := mem_of_mapM hm.conditionClasses hn
    exact ⟨e.2.set, Context.classOf_of_recordClass he⟩
  | field _ hn ih =>
    obtain ⟨set, hset⟩ := ih
    obtain ⟨fuel, cases, fragments, properties, hm⟩ := hset.made
    obtain ⟨p, -, hp⟩ := mem_of_mapM hm.fieldClasses hn
    unfold Context.fieldClass at hp
    split at hp
    · rename_i sub _
      exact ⟨sub, Context.classOf_of_recordClass hp⟩
    · cases hp

end

end TypedOperations
