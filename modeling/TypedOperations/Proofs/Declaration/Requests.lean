import TypedOperations.Proofs.Declaration.References
import TypedOperations.Proofs.Source.Strings

/-!
# What operations send

An operation sends its own text followed by the texts of the fragments that it reaches. It looks these up at run time: in the
class that the name made from the name of a fragment refers to, which is the last one declared with that name, as an attribute
that later members of the class may have taken over. What is sent is the text that identifies the operation exactly if every
look-up ends at the text of its fragment. Names of classes are made by changing the case of letters, so two fragments can have
one class name.
-/

namespace TypedOperations

/-! ## Reading a module -/

/-- The names of what follows the text of a fragment in its class. -/
def RecordClass.memberNames (r : RecordClass) : List String :=
  ["possible_types", "selections"] ++ r.factories.map (·.name) ++ r.fields.map (·.property.attributeName) ++
    r.conditions.map (·.attributeName) ++ (if r.fragments.isEmpty then [] else ["fragments"]) ++ r.nestedNames

/-- The text that the class of a fragment gives: that of its literals, or an empty one if it has none. There is no text if
another member has its name. -/
def RecordClass.fragmentString? (r : RecordClass) : Option String :=
  if r.memberNames.contains "fragment_string" then none
  else
    match r.source with
    | some source => Source.readLiterals (Source.sourceLiterals source)
    | none => some ""

/-- The text that the class of an operation gives: that of its literals, or an empty one if it has none. -/
def OperationClass.operationString? (k : OperationClass) : Option String :=
  if k.source == "" then some "" else Source.readLiterals (Source.sourceLiterals k.source)

/-- The text of the fragment whose class a name refers to; the last class of that name counts. -/
def fragmentString? (o : Options) (ds : List Declaration) (text : String) : Option String :=
  match ds.reverse.find? (fun d => o.qualify d.name == text) with
  | some (.fragment r) => r.fragmentString?
  | _ => none

/-- The texts that an operation joins. -/
def OperationClass.requestPieces (k : OperationClass) (o : Options) (ds : List Declaration) : List (Option String) :=
  k.operationString? :: k.fragments.map (fragmentString? o ds)

/-- The text that an operation sends, if all of its pieces are there. -/
def OperationClass.requestString? (k : OperationClass) (o : Options) (ds : List Declaration) : Option String :=
  ((k.requestPieces o ds).mapM id).map (String.intercalate "\n")

/-! ## Looking up fragments -/

/-- The fragment that a class name refers to: the last one with such a class. -/
def Context.lastNamed (c : Context) (className : String) : Option Fragment :=
  c.fragments.values.reverse.find? fun f => Naming.fragmentClass f.name == className

/-- The class that the name of a fragment refers to gives the text of the fragment. -/
def Context.GivesText (c : Context) (name : String) : Prop :=
  ∃ f last r, c.fragments.get? name = some f ∧ c.lastNamed (Naming.fragmentClass name) = some last ∧
    c.fragmentClass last = .ok r ∧ last.source = f.source ∧ "fragment_string" ∉ r.memberNames

section
variable {c : Context} {ds : List Declaration}

/-- Names that are seen from anywhere in the module are as distinct as the names themselves. -/
theorem Options.qualify_inj (o : Options) {a b : String} : o.qualify a = o.qualify b ↔ a = b := by
  unfold Options.qualify
  cases o.wrapper with
  | none => rfl
  | some w => exact String.append_right_inj (w ++ ".")

/-- The class of an operation gives the text of the operation. -/
theorem OperationClass.operationString?_eq (k : OperationClass) : k.operationString? = some k.source := by
  unfold OperationClass.operationString?
  split
  · rename_i hempty
    rw [beq_iff_eq.mp hempty]
  · exact Source.readLiterals_sourceLiterals k.source

/-- The class of a fragment gives its text, unless another member has taken the name. -/
theorem fragmentString?_of_fragmentClass {f : Fragment} {r : RecordClass} (h : c.fragmentClass f = .ok r) :
    r.fragmentString? = if "fragment_string" ∈ r.memberNames then none else some f.source := by
  have hsource : r.source = nonEmpty f.source := (Context.makes_of_recordClass h).2.1
  unfold RecordClass.fragmentString?
  rw [hsource]
  by_cases hmember : "fragment_string" ∈ r.memberNames
  · rw [if_pos (List.contains_iff_mem.mpr hmember), if_pos hmember]
  · rw [if_neg (by simpa using hmember), if_neg hmember]
    by_cases hempty : f.source = ""
    · simp [nonEmpty, hempty]
    · simp [nonEmpty, hempty, Source.readLiterals_sourceLiterals]

/-- The name of the class of a declared fragment refers to the class of the last fragment with that class name. -/
theorem fragmentString?_of_declared (made : c.declarations = .ok ds) (filed : c.Filed) {name : String}
    (hname : c.fragments.has name = true) :
    ∃ last r, c.lastNamed (Naming.fragmentClass name) = some last ∧ c.fragmentClass last = .ok r ∧
      fragmentString? c.options ds (c.options.qualify (Naming.fragmentClass name)) = r.fragmentString? := by
  obtain ⟨f, hf⟩ := Entries.has_iff.mp hname
  have hmem := Entries.mem_of_get? hf
  have hfound : (c.lastNamed (Naming.fragmentClass name)).isSome = true := by
    rw [Context.lastNamed, List.find?_isSome]
    have hsame : f.name = name := filed _ hmem
    exact ⟨f, List.mem_reverse.mpr (List.mem_map_of_mem hmem), by rw [hsame, beq_self_eq_true]⟩
  obtain ⟨last, hlast⟩ := Option.isSome_iff_exists.mp hfound
  obtain ⟨types, operations, fragments, rfl, -, -, hfragments⟩ := Context.declarations_ok made
  have hkind : ∀ g r, c.fragmentClass g = .ok r →
      (c.options.qualify r.name == c.options.qualify (Naming.fragmentClass name)) =
        (Naming.fragmentClass g.name == Naming.fragmentClass name) := by
    intro g r hr
    rw [(Context.makes_of_recordClass hr).1, Bool.eq_iff_iff, beq_iff_eq, beq_iff_eq, Options.qualify_inj]
  obtain ⟨r, hr, hclass⟩ := findLast_of_mapM hkind hfragments hlast
  refine ⟨last, r, hlast, hclass, ?_⟩
  -- fragments are declared last, so no class of another kind is found before them
  have hlookup : (types ++ operations.map Declaration.operation ++ fragments.map Declaration.fragment).reverse.find?
      (fun d => c.options.qualify d.name == c.options.qualify (Naming.fragmentClass name)) = some (.fragment r) := by
    rw [List.reverse_append, List.find?_append, ← List.map_reverse, List.find?_map]
    have hcomp : (fun d : Declaration => c.options.qualify d.name == c.options.qualify (Naming.fragmentClass name)) ∘
        Declaration.fragment = fun r => c.options.qualify r.name == c.options.qualify (Naming.fragmentClass name) := rfl
    rw [hcomp, hr]
    rfl
  rw [fragmentString?, hlookup]

/-- The class that the name of a declared fragment refers to gives its text exactly if the look-up ends there. -/
theorem givesText_iff (made : c.declarations = .ok ds) (filed : c.Filed) {name : String} {f : Fragment}
    (hf : c.fragments.get? name = some f) :
    fragmentString? c.options ds (c.options.qualify (Naming.fragmentClass name)) = some f.source ↔ c.GivesText name := by
  obtain ⟨last, r, hlast, hclass, hstring⟩ := fragmentString?_of_declared made filed (Entries.has_iff.mpr ⟨f, hf⟩)
  rw [hstring, fragmentString?_of_fragmentClass hclass]
  constructor
  · intro h
    split at h
    · cases h
    · exact ⟨f, last, r, hf, hlast, hclass, Option.some.inj h, ‹_›⟩
  · rintro ⟨f', last', r', hf', hlast', hclass', hsource, hmember⟩
    rw [hf] at hf'
    rw [hlast] at hlast'
    cases hf'
    cases hlast'
    rw [hclass] at hclass'
    cases hclass'
    rw [if_neg hmember, hsource]

/-- The sources of declared fragments are the texts they were written with. -/
theorem fragmentSources_ok {names : List String} (h : ∀ name ∈ names, c.fragments.has name = true) :
    ∃ sources, c.fragmentSources names = .ok sources ∧
      sources.map some = names.map fun name => (c.fragments.get? name).map (·.source) := by
  induction names with
  | nil => exact ⟨[], rfl, rfl⟩
  | cons name rest ih =>
    obtain ⟨sources, hsources, hmap⟩ := ih fun n hn => h n (List.mem_cons_of_mem _ hn)
    obtain ⟨f, hf⟩ := Entries.has_iff.mp (h name List.mem_cons_self)
    refine ⟨f.source :: sources, ?_, ?_⟩
    · exact bind_eq_ok.mpr ⟨f, Context.fragment_eq_ok.mpr hf, bind_eq_ok.mpr ⟨sources, hsources, rfl⟩⟩
    · rw [List.map_cons, List.map_cons, hmap, hf, Option.map_some]

/-- Where all pieces are there, the text that is sent joins them. -/
theorem requestString?_of_pieces {k : OperationClass} {o : Options} {texts : List String}
    (h : k.requestPieces o ds = texts.map some) : k.requestString? o ds = some (String.intercalate "\n" texts) := by
  have hall : ∀ texts : List String, (texts.map some).mapM id = some texts := by
    intro texts
    induction texts with
    | nil => rfl
    | cons text rest ih => rw [List.map_cons, List.mapM_cons, ih]; rfl
  rw [OperationClass.requestString?, h, hall, Option.map_some]

end

/-- What operations send. Take a context with its fragments filed under their names for which all declarations can be made. Each
of its operations has a class in the module. It is identified by the digest of its text followed by the texts of the fragments
that it reaches, in the order of first reference. These are the texts that it joins exactly if the class that the name of each
such fragment refers to gives the text of the fragment, and then the text that is sent is the text that identifies it. -/
theorem requestString_iff (c : Context) (filed : c.Filed) (ds : List Declaration) (made : c.declarations = .ok ds)
    (o : Operation) (ho : o ∈ c.operations.values) :
    ∃ k reached sources, .operation k ∈ ds ∧ c.operationClass o = .ok k ∧ c.fragmentsReached o.set = .ok reached ∧
      c.fragmentSources reached = .ok sources ∧
      c.sourceWithFragments o reached = .ok (String.intercalate "\n" (o.source :: sources)) ∧
      (c.options.operationIds = true →
        k.identifier = some (Digest.ofText (String.intercalate "\n" (o.source :: sources)))) ∧
      (k.requestPieces c.options ds = (o.source :: sources).map some ↔ ∀ name ∈ reached, c.GivesText name) ∧
      ((∀ name ∈ reached, c.GivesText name) →
        k.requestString? c.options ds = some (String.intercalate "\n" (o.source :: sources))) := by
  obtain ⟨k, hk, hclass⟩ := Context.exists_operationClass made ho
  obtain ⟨reached, hreached, hsource, hfragments, hid, -⟩ := Context.operationClass_ok hclass
  have hdeclared := Context.fragmentsReached_declared hreached
  obtain ⟨sources, hsources, hmap⟩ := fragmentSources_ok hdeclared
  have hjoined : c.sourceWithFragments o reached = .ok (String.intercalate "\n" (o.source :: sources)) :=
    bind_eq_ok.mpr ⟨sources, hsources, rfl⟩
  have hpieces : k.requestPieces c.options ds = (o.source :: sources).map some ↔ ∀ name ∈ reached, c.GivesText name := by
    rw [OperationClass.requestPieces, k.operationString?_eq, hsource, hfragments, List.map_map, List.map_cons, hmap, List.cons.injEq]
    rw [eq_self, true_and, List.map_inj_left]
    refine forall₂_congr fun name hname => ?_
    obtain ⟨f, hf⟩ := Entries.has_iff.mp (hdeclared name hname)
    rw [hf, Option.map_some]
    exact givesText_iff made filed hf
  refine ⟨k, reached, sources, hk, hclass, hreached, hsources, hjoined, fun hids => ?_, hpieces, fun hgive => ?_⟩
  · rw [if_pos hids] at hid
    obtain ⟨found, hfound, hid⟩ := hid
    obtain ⟨source, hs, hfound⟩ := bind_eq_ok.mp hfound
    rw [hjoined] at hs
    cases hs
    cases pure_eq_ok.mp hfound
    exact hid
  · exact requestString?_of_pieces (hpieces.mpr hgive)

theorem requestString_iff_pet :
    petContext.Filed ∧ petContext.declarations = .ok petDeclarations ∧ ∃ o ∈ petContext.operations.values,
      ∃ k reached sources, .operation k ∈ petDeclarations ∧ petContext.operationClass o = .ok k ∧
        petContext.fragmentsReached o.set = .ok reached ∧ petContext.fragmentSources reached = .ok sources ∧
        petContext.sourceWithFragments o reached = .ok (String.intercalate "\n" (o.source :: sources)) ∧
        (petContext.options.operationIds = true →
          k.identifier = some (Digest.ofText (String.intercalate "\n" (o.source :: sources)))) ∧
        (k.requestPieces petContext.options petDeclarations = (o.source :: sources).map some ↔
          ∀ name ∈ reached, petContext.GivesText name) ∧
        ((∀ name ∈ reached, petContext.GivesText name) →
          k.requestString? petContext.options petDeclarations = some (String.intercalate "\n" (o.source :: sources))) := by
  have filed := Context.filed_of_ofDocument petContext_eq
  have made : petContext.declarations = .ok petDeclarations := eq_ok_of_isSome (by decide +kernel)
  have hoperation : ∃ o ∈ petContext.operations.values, o.name = "Pet" := by decide +kernel
  obtain ⟨o, ho, -⟩ := hoperation
  exact ⟨filed, made, o, ho, requestString_iff petContext filed petDeclarations made o ho⟩

/-! ## Fragments with one class name -/

/-- Cats, with a name and lives. -/
def namesakeSchema : Schema where
  types :=
    [⟨"String", none, .scalar⟩, ⟨"Int", none, .scalar⟩,
     ⟨"Query", none, .object [] [⟨"cat", none, [], .named "Cat" false, false⟩]⟩,
     ⟨"Cat", none, .object [] [⟨"name", none, [], .named "String" false, false⟩,
       ⟨"lives", none, [], .named "Int" false, false⟩]⟩]
  query := some "Query"
  mutation := none
  subscription := none
  directives := []

/-- A query that spreads two fragments, whose names differ in the case of a letter. -/
def namesakeDocument : Language.Document :=
  [.operation ⟨none, .query, some "Q", [], [], [.field none "cat" [] [] (some [.spread "catInfo" [], .spread "CatInfo" []])]⟩,
   .fragment ⟨none, "catInfo", "Cat", [], [.field none "name" [] [] none]⟩,
   .fragment ⟨none, "CatInfo", "Cat", [], [.field none "lives" [] [] none]⟩]

/-- The context of the query that spreads the two fragments. -/
def namesakeContext : Context := (Context.ofDocument namesakeSchema default namesakeDocument).toOption.getD default

/-- The classes of the query and of its fragments. -/
def namesakeDeclarations : List Declaration := namesakeContext.declarations.toOption.getD []

/-- An operation that does not send what identifies it. The classes of both fragments have one name, so the later one is found
twice: its text is sent twice, and that of the other fragment not at all. -/
theorem requestString_misses_fragment :
    Context.ofDocument namesakeSchema default namesakeDocument = .ok namesakeContext ∧
      namesakeContext.declarations = .ok namesakeDeclarations ∧
      ∃ o ∈ namesakeContext.operations.values, ∃ k, .operation k ∈ namesakeDeclarations ∧ k.operationName = o.name ∧
        namesakeContext.fragmentsReached o.set = .ok ["catInfo", "CatInfo"] ∧
        namesakeContext.fragmentSources ["catInfo", "CatInfo"] =
          .ok ["fragment catInfo on Cat \x7b\n  name\n\x7d", "fragment CatInfo on Cat \x7b\n  lives\n\x7d"] ∧
        k.requestPieces namesakeContext.options namesakeDeclarations =
          [o.source, "fragment CatInfo on Cat \x7b\n  lives\n\x7d", "fragment CatInfo on Cat \x7b\n  lives\n\x7d"].map some ∧
        ∃ hashed, namesakeContext.sourceWithFragments o ["catInfo", "CatInfo"] = .ok hashed ∧
          k.requestString? namesakeContext.options namesakeDeclarations ≠ some hashed := by
  have hrun : ∃ o ∈ namesakeContext.operations.values, ∃ k ∈ operationsOf namesakeDeclarations, k.operationName = o.name ∧
      (namesakeContext.fragmentsReached o.set).toOption = some ["catInfo", "CatInfo"] ∧
      k.requestPieces namesakeContext.options namesakeDeclarations =
        [o.source, "fragment CatInfo on Cat \x7b\n  lives\n\x7d", "fragment CatInfo on Cat \x7b\n  lives\n\x7d"].map some ∧
      (namesakeContext.sourceWithFragments o ["catInfo", "CatInfo"]).toOption.isSome = true ∧
      k.requestString? namesakeContext.options namesakeDeclarations ≠
        (namesakeContext.sourceWithFragments o ["catInfo", "CatInfo"]).toOption := by decide +kernel
  obtain ⟨o, ho, k, hk, hname, hreached, hpieces, hhashed, hne⟩ := hrun
  obtain ⟨hashed, hsome⟩ := Option.isSome_iff_exists.mp hhashed
  rw [hsome] at hne
  exact ⟨rfl, eq_ok_of_isSome (by decide +kernel), o, ho, k, mem_of_operationsOf hk, hname, eq_ok_of_toOption hreached,
    eq_ok_of_toOption (by decide +kernel), hpieces, hashed, eq_ok_of_toOption hsome, hne⟩

end TypedOperations
