import TypedOperations.Proofs.Search
import TypedOperations.Proofs.Selection.Fields
import TypedOperations.Proofs.Selection.Resolving

/-!
# The types that a document uses

Enums, custom scalars and input objects are listed where a variable or a field mentions them, and an input object brings the
types of its fields, at any depth. Input types may refer to one another in a circle, and the list serves all definitions of a
document. What one mention adds is a search along input fields from the types that are listed already (`addUsed_adds`); what a
document adds is one search of everything that it mentions (`typesUsed_adds`). Types that are not listed end a path, so the
search passes them, and they lead to nothing that is listed either (`reaches_of_inputRefers`).
-/

namespace TypedOperations

/-- The type is listed where it is used: an enum, an input object, or a scalar that is not built in. -/
def Schema.TypeDef.isListed (t : Schema.TypeDef) : Bool :=
  match t.body with
  | .enum _ => true
  | .inputObject _ _ => true
  | .scalar => !Schema.builtInScalars.contains t.name
  | _ => false

/-- The name is one of a type that is listed where it is used. -/
def Schema.lists (s : Schema) (name : String) : Bool :=
  (s.type? name).any (·.isListed)

/-- A type has an input field of another type. -/
def Schema.InputRefers (s : Schema) (a b : String) : Prop :=
  ∃ t, s.type? a = some t ∧ ∃ f ∈ t.inputFields, f.type.base = b

/-- The listed types of the input fields of a type, in order. -/
def Schema.usedBy (s : Schema) (name : String) : List String :=
  match s.type? name with
  | some t => (t.inputFields.map (·.type.base)).filter s.lists
  | none => []

/-- The named types that a definition mentions: those of its variables, and then those of the fields that it is resolved to,
at any depth. -/
def Resolve.mentions (s : Schema) : Language.Definition → List String
  | .operation o =>
    match operation s o with
    | .ok r => o.parameters.map (·.type.base) ++ (allFields r.set.selections).map (·.type.base.name)
    | .error _ => []
  | .fragment f =>
    match fragment s f with
    | .ok r => (allFields r.set.selections).map (·.type.base.name)
    | .error _ => []
  | _ => []

/-- The types with more of them, which a search of the names in `todo` finds along input fields. -/
def Schema.Adds (s : Schema) (used : List Schema.TypeDef) (todo : List String) (out : List Schema.TypeDef) : Prop :=
  ∃ added, out = used ++ added ∧ (∀ t ∈ added, s.type? t.name = some t ∧ t.isListed = true) ∧
    Search.Visits s.usedBy (used.map (·.name)) todo (added.map (·.name))

section
variable {s : Schema} {t : Schema.TypeDef} {used middle out : List Schema.TypeDef} {todo : List String} {name : String}

/-! ## Types by their names -/

theorem name_of_type? (h : s.type? name = some t) : t.name = name := by
  simpa using List.find?_some h

theorem mem_names_of_type? (h : s.type? name = some t) : name ∈ s.types.map (·.name) :=
  List.mem_map.mpr ⟨t, List.mem_of_find?_eq_some h, name_of_type? h⟩

theorem lists_iff : s.lists name = true ↔ ∃ t, s.type? name = some t ∧ t.isListed = true := by
  rw [Schema.lists, Option.any_eq_true_iff_get]
  constructor
  · rintro ⟨hsome, hlisted⟩
    exact ⟨_, (Option.some_get hsome).symm, hlisted⟩
  · rintro ⟨t, ht, hlisted⟩
    exact ⟨by simp [ht], by simpa [ht] using hlisted⟩

/-- A type with input fields is listed. -/
theorem isListed_of_inputField {f : Schema.InputValue} (h : f ∈ t.inputFields) : t.isListed = true := by
  obtain ⟨name, description, body⟩ := t
  cases body with
  | inputObject => rfl
  | _ => cases h

/-! ## What one search adds -/

theorem Schema.Adds.nil : s.Adds used [] used :=
  ⟨[], (List.append_nil used).symm, by simp, .nil⟩

/-- A type that is listed already adds nothing. -/
theorem Schema.Adds.passed (h : name ∈ used.map (·.name)) : s.Adds used [name] used :=
  ⟨[], (List.append_nil used).symm, by simp, .passed h⟩

/-- A new type adds itself and what its input fields add. -/
theorem Schema.Adds.entered (hnew : name ∉ used.map (·.name)) (ht : s.type? name = some t) (hlisted : t.isListed = true)
    (h : s.Adds (used ++ [t]) (s.usedBy name) out) : s.Adds used [name] out := by
  obtain ⟨added, rfl, hadded, hvisits⟩ := h
  have hname := name_of_type? ht
  subst hname
  rw [List.map_append, List.map_singleton] at hvisits
  refine ⟨t :: added, by simp, ?_, hvisits.entered hnew⟩
  intro u hu
  rcases List.mem_cons.mp hu with rfl | hu
  · exact ⟨ht, hlisted⟩
  · exact hadded u hu

/-- What one search adds and then a search of further names adds, a search of all of them adds. -/
theorem Schema.Adds.append {more : List String} (h : s.Adds used todo middle) (h' : s.Adds middle more out) :
    s.Adds used (todo ++ more) out := by
  obtain ⟨first, rfl, hfirst, hvisits⟩ := h
  obtain ⟨second, rfl, hsecond, hvisits'⟩ := h'
  rw [List.map_append] at hvisits'
  refine ⟨first ++ second, List.append_assoc used first second, ?_, ?_⟩
  · intro t ht
    exact (List.mem_append.mp ht).elim (hfirst t) (hsecond t)
  · rw [List.map_append]
    exact hvisits.append hvisits'

/-- Only one list of types results from a search. -/
theorem Schema.Adds.unique {other : List Schema.TypeDef} (h : s.Adds used todo out) (h' : s.Adds used todo other) :
    out = other := by
  obtain ⟨added, rfl, hadded, hvisits⟩ := h
  obtain ⟨added', rfl, hadded', hvisits'⟩ := h'
  -- a type that was added is the one that its name is looked up as
  have hlookup : ∀ types : List Schema.TypeDef, (∀ t ∈ types, s.type? t.name = some t ∧ t.isListed = true) →
      types.map some = (types.map (·.name)).map s.type? := by
    intro types htypes
    rw [List.map_map]
    exact List.map_congr_left fun t ht => (htypes t ht).1.symm
  have hsame : added.map some = added'.map some := by
    rw [hlookup added hadded, hlookup added' hadded', hvisits.unique hvisits']
  rw [List.map_injective_iff.mpr (fun _ _ => Option.some.inj) hsame]

/-! ## What the run over names adds -/

/-- A new type is listed before the types of its input fields, if it is one that is listed at all. -/
theorem addUsed_succ (fuel : Nat) (hnew : name ∉ used.map (·.name)) (ht : s.type? name = some t) :
    Resolve.addUsed s (fuel + 1) used name =
      if t.isListed then (t.inputFields.map (·.type.base)).foldl (Resolve.addUsed s fuel) (used ++ [t]) else used := by
  have hany : ¬used.any (·.name == name) = true := fun hin => hnew (by simpa using hin)
  have hname := name_of_type? ht
  subst hname
  rw [Resolve.addUsed, if_neg hany, ht]
  obtain ⟨name, description, body⟩ := t
  cases body with
  | scalar =>
    simp only [Schema.TypeDef.isListed, Schema.TypeDef.inputFields, List.map_nil, List.foldl_nil]
    cases Schema.builtInScalars.contains name <;> rfl
  | _ => rfl

/-- A type that is listed already, or never, is passed. -/
theorem addUsed_passed (fuel : Nat) (h : name ∈ used.map (·.name) ∨ s.lists name = false) :
    Resolve.addUsed s fuel used name = used := by
  cases fuel with
  | zero => rfl
  | succ fuel =>
    by_cases hin : name ∈ used.map (·.name)
    · have hany : used.any (·.name == name) = true := by simpa using hin
      rw [Resolve.addUsed, if_pos hany]
    · have hnone := h.resolve_left hin
      cases ht : s.type? name with
      | none =>
        rw [Resolve.addUsed, ht]
        exact ite_self used
      | some t =>
        rw [Schema.lists, ht, Option.any_some] at hnone
        rw [addUsed_succ fuel hin ht, hnone]
        rfl

/-- Names one after another add what a search of the listed ones among them adds, if each does. -/
theorem foldl_adds {fuel : Nat} (hstep : ∀ {used name},
      (Search.unvisited (s.types.map (·.name)) (used.map (·.name))).length < fuel →
        s.Adds used ([name].filter s.lists) (Resolve.addUsed s fuel used name)) (names : List String) :
    ∀ {used}, (Search.unvisited (s.types.map (·.name)) (used.map (·.name))).length < fuel →
      s.Adds used (names.filter s.lists) (names.foldl (Resolve.addUsed s fuel) used) := by
  induction names with
  | nil => exact fun _ => .nil
  | cons name rest ih =>
    intro used hfuel
    have hfirst : s.Adds used ([name].filter s.lists) (Resolve.addUsed s fuel used name) := hstep hfuel
    rw [← List.singleton_append, List.filter_append, List.singleton_append, List.foldl_cons]
    refine hfirst.append (ih ?_)
    obtain ⟨added, hadded, -⟩ := hfirst
    have hsub : used.map (·.name) ⊆ (Resolve.addUsed s fuel used name).map (·.name) := by
      rw [hadded, List.map_append]
      exact List.subset_append_left _ _
    exact Nat.lt_of_le_of_lt (Search.unvisited_le hsub) hfuel

/-- A name with more steps than there are types left adds what a search of it adds, if it is listed. -/
theorem addUsed_adds (fuel : Nat) :
    ∀ {used name}, (Search.unvisited (s.types.map (·.name)) (used.map (·.name))).length < fuel →
      s.Adds used ([name].filter s.lists) (Resolve.addUsed s fuel used name) := by
  induction fuel with
  | zero => exact fun h => absurd h (Nat.not_lt_zero _)
  | succ fuel ih =>
    intro used name hfuel
    cases hlists : s.lists name with
    | false =>
      rw [addUsed_passed _ (Or.inr hlists), List.filter_singleton, hlists]
      exact .nil
    | true =>
      rw [List.filter_singleton, hlists]
      by_cases hin : name ∈ used.map (·.name)
      · rw [addUsed_passed _ (Or.inl hin)]
        exact .passed hin
      · obtain ⟨t, ht, hlisted⟩ := lists_iff.mp hlists
        have hless := Search.unvisited_lt (mem_names_of_type? ht) hin
        have hnames : (used ++ [t]).map (·.name) = used.map (·.name) ++ [name] := by simp [name_of_type? ht]
        have hfields : s.usedBy name = (t.inputFields.map (·.type.base)).filter s.lists := by rw [Schema.usedBy, ht]
        rw [addUsed_succ fuel hin ht, if_pos hlisted]
        refine .entered hin ht hlisted ?_
        rw [hfields]
        exact foldl_adds ih _ (by rw [hnames]; omega)

/-- Names one after another, with more steps than there are types. -/
theorem foldl_addUsed_adds {fuel : Nat} (hfuel : s.types.length < fuel) (used : List Schema.TypeDef) (names : List String) :
    s.Adds used (names.filter s.lists) (names.foldl (Resolve.addUsed s fuel) used) := by
  refine foldl_adds (addUsed_adds fuel) names (Nat.lt_of_le_of_lt ?_ hfuel)
  have hle := List.length_filter_le (fun name => !(used.map (·.name)).contains name) (s.types.map (·.name))
  simpa [Search.unvisited] using hle

end

/-! ## What a document adds -/

section
variable {s : Schema} {options : Options} {d : Language.Document} {c c' : Context}

/-- The type of a variable that is resolved has the name that is written. -/
theorem base_of_resolve? {t : TypeRef String} {r : ResolvedType} (h : s.resolve? t = some r) : r.base.name = t.base := by
  induction t generalizing r with
  | named name required =>
    obtain ⟨ref, href, rfl⟩ := Option.map_eq_some_iff.mp h
    obtain ⟨def', hdef, rfl⟩ := Option.map_eq_some_iff.mp href
    exact name_of_type? hdef
  | list item required ih =>
    obtain ⟨inner, hinner, rfl⟩ := Option.map_eq_some_iff.mp h
    exact ih (r := inner) hinner

theorem Resolve.parameters_bases (vs : List Language.VariableDefinition) :
    ∀ {rs : List Variable}, Resolve.parameters s vs = .ok rs → rs.map (·.type.base.name) = vs.map (·.type.base) := by
  induction vs with
  | nil =>
    intro rs h
    cases h
    rfl
  | cons v rest ih =>
    intro rs h
    rw [Resolve.parameters] at h
    split at h
    · cases h
    · rename_i r hr
      obtain ⟨others, hothers, h⟩ := bind_eq_ok.mp h
      cases pure_eq_ok.mp h
      rw [List.map_cons, List.map_cons, ih hothers, base_of_resolve? hr]

/-- The variables of a resolved operation are those that are written. -/
theorem Resolve.operation_parameters {o : Language.OperationDefinition} {r : Operation} (h : Resolve.operation s o = .ok r) :
    r.parameters.map (·.type.base.name) = o.parameters.map (·.type.base) := by
  unfold Resolve.operation at h
  split at h
  · cases h
  · split at h
    · cases h
    · obtain ⟨vs, hvs, h⟩ := bind_eq_ok.mp h
      obtain ⟨set, -, h⟩ := bind_eq_ok.mp h
      cases pure_eq_ok.mp h
      exact Resolve.parameters_bases _ hvs

/-- One more definition adds the types that it mentions. -/
theorem typesUsed_addDefinition {x : Language.Definition} (h : Resolve.addDefinition s c x = .ok c') :
    c'.typesUsed = Resolve.addAllUsed s c.typesUsed (Resolve.mentions s x) := by
  cases x with
  | operation o =>
    obtain ⟨r, hr, h⟩ := bind_eq_ok.mp h
    cases pure_eq_ok.mp h
    simp only [Resolve.mentions, hr, Resolve.operation_parameters hr, allFieldTypes_eq]
  | fragment f =>
    obtain ⟨r, hr, h⟩ := bind_eq_ok.mp h
    cases pure_eq_ok.mp h
    simp only [Resolve.mentions, hr, allFieldTypes_eq]
  | _ =>
    cases h
    rfl

/-- More definitions add the types that they mention, one definition after another. -/
theorem typesUsed_foldlM {c₀ : Context} (h : d.foldlM (Resolve.addDefinition s) c₀ = .ok c) :
    c.typesUsed = Resolve.addAllUsed s c₀.typesUsed (d.flatMap (Resolve.mentions s)) := by
  induction d generalizing c₀ with
  | nil =>
    cases h
    rfl
  | cons x rest ih =>
    rw [List.foldlM_cons] at h
    obtain ⟨c₁, hx, h⟩ := bind_eq_ok.mp h
    rw [ih h, typesUsed_addDefinition hx, List.flatMap_cons, Resolve.addAllUsed, Resolve.addAllUsed, Resolve.addAllUsed,
      List.foldl_append]

/-- The types used by a resolved document are what a search of the types that it mentions finds. -/
theorem typesUsed_adds (hc : Context.ofDocument s options d = .ok c) :
    s.Adds [] ((d.flatMap (Resolve.mentions s)).filter s.lists) c.typesUsed := by
  rw [typesUsed_foldlM hc]
  exact foldl_addUsed_adds (Nat.lt_succ_self _) [] _

/-- Along input fields every type before a listed one is listed, so the search follows them. -/
theorem reaches_of_inputRefers {a b : String} (hb : s.lists b = true) (h : Relation.ReflTransGen s.InputRefers a b) :
    s.lists a = true ∧ Relation.ReflTransGen (fun a b => b ∈ s.usedBy a) a b := by
  induction h using Relation.ReflTransGen.head_induction_on with
  | refl => exact ⟨hb, .refl⟩
  | head hrefers _ ih =>
    obtain ⟨t, ht, f, hf, rfl⟩ := hrefers
    refine ⟨lists_iff.mpr ⟨t, ht, isListed_of_inputField hf⟩, .head ?_ ih.2⟩
    rw [Schema.usedBy, ht]
    exact List.mem_filter.mpr ⟨List.mem_map_of_mem hf, ih.1⟩

theorem inputRefers_of_mem_usedBy {a b : String} (h : b ∈ s.usedBy a) : s.InputRefers a b := by
  rw [Schema.usedBy] at h
  split at h
  · rename_i t ht
    obtain ⟨f, hf, hbase⟩ := List.mem_map.mp (List.mem_filter.mp h).1
    exact ⟨t, ht, f, hf, hbase⟩
  · cases h

end

/-- The types that a document uses. Take any schema, however its input types refer to one another, and any document that can be
resolved against it. Listing types ends: any number of steps beyond that of the types gives the same list. The list names
nothing twice. It has exactly the enums, input objects and scalars that are not built in, as the schema declares them, that a
variable or a resolved field mentions or that input fields lead to from there, at any depth. And it is in the order of first
use: a search of what the definitions mention, in the order of the document and variables before fields, that goes on along
the input fields of a type as soon as it is listed. -/
theorem typesUsed_exact {s : Schema} {options : Options} {d : Language.Document} {c : Context}
    (resolved : Context.ofDocument s options d = .ok c) :
    (∀ fuel, s.types.length < fuel → ∀ used names,
      names.foldl (Resolve.addUsed s fuel) used = Resolve.addAllUsed s used names) ∧
    (c.typesUsed.map (·.name)).Nodup ∧
    (∀ t, t ∈ c.typesUsed ↔ s.type? t.name = some t ∧ t.isListed = true ∧
      ∃ first ∈ d.flatMap (Resolve.mentions s), Relation.ReflTransGen s.InputRefers first t.name) ∧
    Search.InOrder s.usedBy ((d.flatMap (Resolve.mentions s)).filter s.lists) (c.typesUsed.map (·.name)) := by
  obtain ⟨added, hadded, hdeclared, hvisits⟩ := typesUsed_adds resolved
  rw [List.nil_append] at hadded
  subst hadded
  have horder := hvisits.inOrder
  refine ⟨?_, horder.nodup, ?_, horder⟩
  · intro fuel hfuel used names
    exact (foldl_addUsed_adds hfuel used names).unique (foldl_addUsed_adds (Nat.lt_succ_self _) used names)
  · intro t
    constructor
    · intro ht
      obtain ⟨first, hfirst, hpath⟩ := horder.mem_iff.mp (List.mem_map_of_mem ht)
      exact ⟨(hdeclared t ht).1, (hdeclared t ht).2, first, (List.mem_filter.mp hfirst).1,
        Relation.ReflTransGen.mono (fun _ _ => inputRefers_of_mem_usedBy) _ _ hpath⟩
    · rintro ⟨htype, hlisted, first, hfirst, hpath⟩
      obtain ⟨hlists, hpath⟩ := reaches_of_inputRefers (lists_iff.mpr ⟨t, htype, hlisted⟩) hpath
      obtain ⟨u, hu, hname⟩ := List.mem_map.mp
        (horder.mem_iff.mpr ⟨first, List.mem_filter.mpr ⟨hfirst, hlists⟩, hpath⟩)
      have hsame := (hdeclared u hu).1
      rw [hname, htype] at hsame
      cases hsame
      exact hu

/-- A schema with input types in a circle: a filter has a range of dates and more filters, and a range has a filter. -/
def filterSchema : Schema where
  types :=
    [⟨"String", none, .scalar⟩, ⟨"Date", none, .scalar⟩, ⟨"Order", none, .enum (.ok [])⟩, ⟨"Color", none, .enum (.ok [])⟩,
     ⟨"Unused", none, .enum (.ok [])⟩,
     ⟨"Query", none, .object [] [⟨"cat", none, [], .named "Cat" false, false⟩]⟩,
     ⟨"Cat", none, .object [] [⟨"name", none, [], .named "String" false, false⟩,
       ⟨"color", none, [], .named "Color" false, false⟩, ⟨"born", none, [], .named "Date" false, false⟩]⟩,
     ⟨"Filter", none, .inputObject [⟨"text", none, .named "String" false, none, false⟩,
       ⟨"range", none, .named "Range" false, none, false⟩, ⟨"all", none, .list (.named "Filter" true) false, none, false⟩,
       ⟨"order", none, .named "Order" false, none, false⟩] false⟩,
     ⟨"Range", none, .inputObject [⟨"without", none, .named "Filter" false, none, false⟩,
       ⟨"after", none, .named "Date" false, none, false⟩] false⟩]
  query := some "Query"
  mutation := none
  subscription := none
  directives := []

/-- A query with a variable, and a fragment before it that mentions an enum. -/
def filterDocument : Language.Document :=
  [.fragment ⟨none, "Look", "Cat", [], [.field none "name" [] [] none, .field none "color" [] [] none]⟩,
   .operation ⟨none, .query, some "Cat", [⟨none, "filter", .named "Filter" true, none, []⟩], [],
     [.field none "cat" [] [] (some [.field none "born" [] [] none, .spread "Look" []])]⟩]

/-- The context of the query. -/
def filterContext : Context := (Context.ofDocument filterSchema default filterDocument).toOption.getD default

theorem typesUsed_exact_filter :
    Context.ofDocument filterSchema default filterDocument = .ok filterContext ∧
      filterContext.typesUsed.map (·.name) = ["Color", "Filter", "Range", "Date", "Order"] ∧
      Search.InOrder filterSchema.usedBy ["Color", "Filter", "Date"] ["Color", "Filter", "Range", "Date", "Order"] ∧
      ∃ first ∈ filterDocument.flatMap (Resolve.mentions filterSchema),
        Relation.ReflTransGen filterSchema.InputRefers first "Order" := by
  obtain ⟨-, -, hmem, horder⟩ := typesUsed_exact (s := filterSchema) (d := filterDocument) (c := filterContext) rfl
  have horderUsed : "Order" ∈ filterContext.typesUsed.map (·.name) := by decide
  obtain ⟨t, ht, hname⟩ := List.mem_map.mp horderUsed
  obtain ⟨-, -, hreached⟩ := (hmem t).mp ht
  rw [hname] at hreached
  exact ⟨rfl, rfl, horder, hreached⟩

end TypedOperations
