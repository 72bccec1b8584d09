import TypedOperations.Proofs.Selection.Cases
import TypedOperations.Proofs.Selection.Fitting

/-!
# Sub-selections of repeated fields

A field that occurs several times in a set is merged into one, with the sub-selections of all occurrences one after another.
The guards around an occurrence are not kept around its sub-selections, so the class of the merged sub-selections takes for
granted what a guarded occurrence asks for even where the variables leave that occurrence out. That does no harm exactly when
everything that the occurrences left out ask for, whatever the variables are, is given by those that are included as well. In
general it is not: a query for a cat, and for its lives only if a variable says so, is enough.
-/

namespace TypedOperations

/-- The visit that finds what all of the object types give, with values for the variables. -/
def Visit.executingAll (values : String → Bool) (types : List String) : Visit :=
  ⟨types, fun g => values g.flag != g.inverted⟩

/-- The values of the variables include the occurrence. -/
def Occurrence.includedBy (values : String → Bool) (o : Occurrence) : Bool :=
  o.guards.all fun g => values g.flag != g.inverted

/-- The sub-selections of occurrences, one after another. -/
def Occurrence.subselections (os : List Occurrence) : List Selection :=
  (Occurrence.subsets os).flatMap (·.selections)

/-- Executing the selections on the object type gives the key. -/
def Context.Gives (c : Context) (values : String → Bool) (type : String) (sels : List Selection) (key : String) : Prop :=
  ∃ os, c.Walks (.executing values type) sels os ∧ ∃ o ∈ os, o.key = key

section
variable {c : Context} {v : Visit} {os : List Occurrence}

/-- A walk through lists one after another meets what a walk through one of them does. -/
theorem Context.Walks.mem_flatMap {sets : List SelectionSet} (h : c.Walks v (sets.flatMap (·.selections)) os)
    {o : Occurrence} : o ∈ os ↔ ∃ set ∈ sets, ∃ inner, c.Walks v set.selections inner ∧ o ∈ inner := by
  induction sets generalizing os with
  | nil =>
    cases h
    simp
  | cons set rest ih =>
    rw [List.flatMap_cons] at h
    obtain ⟨first, others, rfl, hfirst, hrest⟩ := h.unappend
    rw [List.mem_append, ih hrest]
    constructor
    · rintro (ho | ⟨other, hother, inner, hinner, ho⟩)
      · exact ⟨set, List.mem_cons_self, first, hfirst, ho⟩
      · exact ⟨other, List.mem_cons_of_mem _ hother, inner, hinner, ho⟩
    · rintro ⟨other, hother, inner, hinner, ho⟩
      rcases List.mem_cons.mp hother with rfl | hother
      · rw [hfirst.unique hinner]
        exact Or.inl ho
      · exact Or.inr ⟨other, hother, inner, hinner, ho⟩

theorem Occurrence.mem_subsets {set : SelectionSet} : set ∈ subsets os ↔ ∃ o ∈ os, o.field.selectionSet = some set := by
  simp [subsets]

/-- Sets after one another ask for a key, whatever the variables are, exactly if one of them does. -/
theorem requires_subselections (acyclic : c.Acyclic) {types : List String} {key : String} :
    c.Requires types (Occurrence.subselections os) key ↔
      ∃ o ∈ os, ∃ sub, o.field.selectionSet = some sub ∧ c.Requires types sub.selections key := by
  constructor
  · rintro ⟨all, hall, p, hp, hc, hkey⟩
    obtain ⟨sub, hsub, inner, hinner, hp⟩ := hall.mem_flatMap.mp hp
    obtain ⟨o, ho, hset⟩ := Occurrence.mem_subsets.mp hsub
    exact ⟨o, ho, sub, hset, inner, hinner, p, hp, hc, hkey⟩
  · rintro ⟨o, ho, sub, hset, inner, hinner, p, hp, hc, hkey⟩
    obtain ⟨all, hall⟩ := acyclic.exists_walks (.collecting types) (Occurrence.subselections os)
    have hsub : sub ∈ Occurrence.subsets os := Occurrence.mem_subsets.mpr ⟨o, ho, hset⟩
    exact ⟨all, hall, p, hall.mem_flatMap.mpr ⟨sub, hsub, inner, hinner, hp⟩, hc, hkey⟩

/-- What an occurrence asks for, whatever the variables are, is given by executing the sub-selections of occurrences that it
is among. -/
theorem gives_of_requires (acyclic : c.Acyclic) {types : List String} {key type : String} {o : Occurrence}
    {sub : SelectionSet} (ho : o ∈ os) (hset : o.field.selectionSet = some sub)
    (h : c.Requires types sub.selections key) (htype : type ∈ types) (values : String → Bool) :
    c.Gives values type (Occurrence.subselections os) key := by
  have hall : c.Requires types (Occurrence.subselections os) key :=
    (requires_subselections acyclic).mpr ⟨o, ho, sub, hset, h⟩
  obtain ⟨met, hmet⟩ := acyclic.exists_walks (.executing values type) (Occurrence.subselections os)
  exact ⟨met, hmet, key_of_requires hall htype hmet⟩

/-- A merged field has the sub-selections of all occurrences of its key. -/
theorem selections_of_grouped {f : Field} (hf : f ∈ (grouped os).values) {merged : SelectionSet}
    (hmerged : f.selectionSet = some merged) :
    merged.selections = Occurrence.subselections (Occurrence.withKey f.responseKey os) := by
  obtain ⟨first, more, hw, hm⟩ := mergedWith_of_mem_grouped hf
  rw [hm, Occurrence.mergedWith] at hmerged
  rw [hw, Occurrence.subselections]
  cases hsets : Occurrence.subsets (first :: more) with
  | nil =>
    rw [hsets] at hmerged
    cases hmerged
  | cons set rest =>
    rw [hsets] at hmerged
    cases hmerged
    rfl

end

/-- When merging the sub-selections of a repeated field keeps what is conditional. Take a field that all possible types of a
selection set of a resolved document have in common, and its merged sub-selections; take values of the variables, and some
of the possible types. The class of the merged sub-selections is right about what it takes for granted, in the response that
just the included occurrences of the field give on each of its own possible types, exactly if every key that the sub-selections
of an occurrence left out ask for, whatever the variables are, is given by the included ones too. -/
theorem merged_unconditional_iff (s : Schema) (options : Options) (d : Language.Document) (c : Context)
    (resolved : Context.ofDocument s options d = .ok c) (acyclic : c.Acyclic) (set : SelectionSet) (held : c.Holds set)
    (cases : RecordCase) (hcases : c.casesOf set = .ok cases) (f : Field) (hf : f ∈ cases.common.fields)
    (merged : SelectionSet) (hmerged : f.selectionSet = some merged) (nested : RecordCase)
    (hnested : c.casesOf merged = .ok nested) (values : String → Bool) (types : List String) (nonempty : types ≠ [])
    (possible : types ⊆ set.possibleTypes) :
    ∃ all met, c.Walks (.collecting set.possibleTypes) set.selections all ∧
      c.Walks (.executingAll values types) set.selections met ∧
      ((∀ type ∈ merged.possibleTypes, ∀ g ∈ nested.common.fields, g.conditional = false →
          c.Gives values type (Occurrence.subselections (Occurrence.withKey f.responseKey met)) g.responseKey) ↔
        ∀ type ∈ merged.possibleTypes, ∀ o ∈ Occurrence.withKey f.responseKey all, o.includedBy values = false →
          ∀ sub, o.field.selectionSet = some sub → ∀ key, c.Requires merged.possibleTypes sub.selections key →
            c.Gives values type (Occurrence.subselections (Occurrence.withKey f.responseKey met)) key) := by
  obtain ⟨all, hall⟩ := acyclic.exists_walks (.collecting set.possibleTypes) set.selections
  obtain ⟨met, hmet⟩ := acyclic.exists_walks (.executingAll values types) set.selections
  refine ⟨all, met, hall, hmet, ?_⟩
  have hne : set.possibleTypes ≠ [] := by
    obtain ⟨t, rest, rfl⟩ := List.exists_cons_of_ne_nil nonempty
    exact List.ne_nil_of_mem (possible List.mem_cons_self)
  have hcover := Context.fragmentsCover_of_ofDocument resolved
  rw [common_of_casesOf hcover (AllFit.guardsCover _ (held.fits resolved)) hne hcases hall] at hf
  have hselections := selections_of_grouped hf hmerged
  -- what the class takes for granted is what some occurrence asks for, left out or not
  have hgranted : ∀ {key : String}, merged.possibleTypes ≠ [] →
      ((∃ g ∈ nested.common.fields, g.conditional = false ∧ g.responseKey = key) ↔
        ∃ o ∈ Occurrence.withKey f.responseKey all, ∃ sub, o.field.selectionSet = some sub ∧
          c.Requires merged.possibleTypes sub.selections key) := by
    intro key hne'
    rw [unconditional_iff_requires acyclic hne' hnested, hselections, requires_subselections acyclic]
  constructor
  · intro h type htype o ho _ sub hset key hkey
    obtain ⟨g, hg, hc, rfl⟩ := (hgranted (List.ne_nil_of_mem htype)).mpr ⟨o, ho, sub, hset, hkey⟩
    exact h type htype g hg hc
  · intro h type htype g hg hc
    obtain ⟨o, ho, sub, hset, hkey⟩ := (hgranted (List.ne_nil_of_mem htype)).mp ⟨g, hg, hc, rfl⟩
    cases hincluded : o.includedBy values with
    | false => exact h type htype o ho hincluded sub hset _ hkey
    | true =>
      -- an occurrence that is included for all types is met for some of them
      obtain ⟨hin, hok⟩ := Occurrence.mem_withKey.mp ho
      have hmem : o ∈ met := hall.mem_of_admits hmet possible o hin (List.all_eq_true.mp hincluded)
      exact gives_of_requires acyclic (Occurrence.mem_withKey.mpr ⟨hmem, hok⟩) hset hkey htype values

/-- A query that asks for a cat twice, the second time if a variable says so. -/
def catDocument : Language.Document :=
  [.operation ⟨none, .query, some "Cat", [⟨none, "all", .named "Boolean" true, none, []⟩], [],
    [.field none "cat" [] [] (some [.field none "name" [] [] none]),
     .field none "cat" [] [⟨"include", [⟨"if", .var "all", 0⟩]⟩] (some [.field none "lives" [] [] none])]⟩]

/-- The context of the query for a cat. -/
def catContext : Context := (Context.ofDocument petSchema default catDocument).toOption.getD default

/-- The set of the query for a cat. -/
def catSet : SelectionSet := ((catContext.operations.get? "Cat").map (·.set)).getD default

/-- The name of a cat. -/
def catName : Field := { responseKey := "name", name := "name", type := .named ⟨"String", .scalar⟩ false }

/-- The lives of a cat. -/
def catLives : Field := { responseKey := "lives", name := "lives", type := .named ⟨"Int", .scalar⟩ false }

/-- What is asked of a cat, merged from both places. -/
def catMerged : SelectionSet := ⟨["Cat"], [.field catName, .field catLives]⟩

/-- The merged field for a cat. -/
def catField : Field :=
  { responseKey := "cat", name := "cat", type := .named ⟨"Cat", .object⟩ false, selectionSet := some catMerged }

theorem catContext_eq : Context.ofDocument petSchema default catDocument = .ok catContext := rfl

theorem catContext_acyclic : catContext.Acyclic :=
  Context.acyclic_of_rank (fun _ => 0) (by decide)

theorem catSet_held : catContext.Holds catSet := @Context.Holds.operation catContext "Cat" _ rfl

theorem catSet_cases : catContext.casesOf catSet = .ok ⟨⟨["Query"], [catField]⟩, [⟨["Query"], [catField]⟩]⟩ := rfl

theorem catMerged_cases :
    catContext.casesOf catMerged =
      .ok ⟨⟨["Cat"], [catName, catLives]⟩, [⟨["Cat"], [catName, catLives]⟩]⟩ := rfl

theorem merged_unconditional_iff_cat :
    Context.ofDocument petSchema default catDocument = .ok catContext ∧ catContext.Acyclic ∧ catContext.Holds catSet ∧
      ∃ cases nested, catContext.casesOf catSet = .ok cases ∧ catField ∈ cases.common.fields ∧
        catContext.casesOf catMerged = .ok nested ∧
        ∃ all met, catContext.Walks (.collecting catSet.possibleTypes) catSet.selections all ∧
          catContext.Walks (.executingAll (fun _ => false) ["Query"]) catSet.selections met ∧
          ((∀ type ∈ catMerged.possibleTypes, ∀ g ∈ nested.common.fields, g.conditional = false →
              catContext.Gives (fun _ => false) type (Occurrence.subselections (Occurrence.withKey "cat" met))
                g.responseKey) ↔
            ∀ type ∈ catMerged.possibleTypes, ∀ o ∈ Occurrence.withKey "cat" all, o.includedBy (fun _ => false) = false →
              ∀ sub, o.field.selectionSet = some sub → ∀ key,
                catContext.Requires catMerged.possibleTypes sub.selections key →
                  catContext.Gives (fun _ => false) type (Occurrence.subselections (Occurrence.withKey "cat" met)) key) :=
  ⟨catContext_eq, catContext_acyclic, catSet_held, _, _, catSet_cases, List.mem_cons_self, catMerged_cases,
    merged_unconditional_iff petSchema default catDocument catContext catContext_eq catContext_acyclic catSet catSet_held _
      catSet_cases catField List.mem_cons_self catMerged rfl _ catMerged_cases (fun _ => false) ["Query"] (by simp)
      (List.Subset.refl _)⟩

/-- The class of a merged field takes too much for granted. The query asks for a cat, and again for its lives if a variable
says so. With the variable false only the first place is included, which gives the name alone; still the class of the merged
field has the lives of the cat as a field that is not conditional. -/
theorem merged_unconditional_misses_lives :
    ∃ cases nested met, catContext.casesOf catSet = .ok cases ∧ catField ∈ cases.common.fields ∧
      catField.selectionSet = some catMerged ∧ catContext.casesOf catMerged = .ok nested ∧
      catContext.Walks (.executingAll (fun _ => false) catSet.possibleTypes) catSet.selections met ∧
      Occurrence.withKey "cat" met ≠ [] ∧ "Cat" ∈ catMerged.possibleTypes ∧
      ∃ g ∈ nested.common.fields, g.conditional = false ∧
        ¬catContext.Gives (fun _ => false) "Cat" (Occurrence.subselections (Occurrence.withKey "cat" met))
          g.responseKey := by
  have hmet : catContext.Walks (.executingAll (fun _ => false) catSet.possibleTypes) catSet.selections
      [⟨{ catField with selectionSet := some ⟨["Cat"], [.field catName]⟩ }, []⟩] := .field _ (.passGuard rfl .nil)
  refine ⟨_, _, _, catSet_cases, List.mem_cons_self, rfl, catMerged_cases, hmet, List.cons_ne_nil _ _, by decide,
    catLives, by simp, rfl, ?_⟩
  rintro ⟨os, hos, o, ho, hkey⟩
  have hname : catContext.Walks (.executing (fun _ => false) "Cat") [.field catName] [⟨catName, []⟩] :=
    .field catName .nil
  rw [hos.unique hname] at ho
  cases List.mem_singleton.mp ho
  exact absurd hkey (by decide)

end TypedOperations
