import TypedOperations.Proofs.Execution.Agreement
import TypedOperations.Proofs.Language.Typename
import TypedOperations.Proofs.Selection.Describing
import TypedOperations.Proofs.Selection.WellFormed

/-!
# Records tell their types

A document with `__typename` inserted is resolved to sets that begin with that field wherever a field or a fragment owns them
(`begins_of_resolves`, `fieldsBegin_of_resolves`). No pass moves it from there (`BeginsTyped.passes`), and what all possible
types have in common is collected from the front (`BeginsTyped.collectFields`). Whatever is asked for under the same key later,
the field is not conditional: it would be only if every occurrence was.
-/

namespace TypedOperations

/-- The field is `__typename` under its own name, and no guard keeps it from a response. -/
structure FieldOf.IsTypename (f : Field) : Prop where
  key : f.responseKey = "__typename"
  name : f.name = "__typename"
  unconditional : f.conditional = false

/-- The selections begin with `__typename`, in no guard. -/
def BeginsTyped (sels : List Selection) : Prop :=
  ∃ f rest, sels = .field f :: rest ∧ f.IsTypename

/-- A set of the context that belongs to a fragment, or to a field at any depth. -/
inductive Context.HoldsOwned (c : Context) : SelectionSet → Prop where
  | fragment {name : String} {f : Fragment} : c.fragments.get? name = some f → c.HoldsOwned f.set
  | field {outer inner : SelectionSet} {f : Field} :
      c.Holds outer → .field f ∈ outer.selections → f.selectionSet = some inner → c.HoldsOwned inner

/-! ## What resolving makes of it -/

section
variable {s : Schema} {parent : Schema.TypeDef} {possible : List String} {xs : List Language.Selection}
  {sels : List Selection}

/-- The field that the inserted `__typename` becomes. -/
theorem isTypename_makeField (s : Schema) (args : List Argument) (set : Option SelectionSet) {f : Field}
    (h : Resolve.makeField s Schema.Introspection.typenameField none args set = .field f) : f.IsTypename := by
  cases h
  exact ⟨rfl, rfl, rfl⟩

/-- Written selections that begin with a plain `__typename` become selections that do. -/
theorem begins_of_resolves (h : Resolve.Resolves s parent possible xs sels) (hxs : Language.TypenameFirst xs) :
    BeginsTyped sels := by
  obtain ⟨rest, rfl, -⟩ := hxs
  generalize hx : Language.Selection.typename :: rest = xs at h
  cases h with
  | nil => cases hx
  | dropped hg _ =>
    cases hx
    cases hg
  | leaf hg hf _ _ _ =>
    cases hx
    cases hg
    cases hf
    exact ⟨_, _, rfl, isTypename_makeField s _ _ rfl⟩
  | composite => cases hx
  | spread => cases hx
  | splice => cases hx
  | narrow => cases hx

/-- Where the sets of all fields of a document begin with a plain `__typename`, so do the sets of the fields that its selections
become, at any depth. -/
theorem fieldsBegin_of_resolves {d : Language.Document}
    (hsets : ∀ set, Language.HasSet d .field set → Language.TypenameFirst set)
    (h : Resolve.Resolves s parent possible xs sels) :
    ∀ {owner set}, Language.HasSet d owner set → xs ⊆ set →
      ∀ f ∈ allFields sels, ∀ inner, f.selectionSet = some inner → BeginsTyped inner.selections := by
  induction h with
  | nil => exact fun _ _ f hf => absurd hf List.not_mem_nil
  | dropped _ _ ih => exact fun hset hsub => ih hset (List.subset_of_cons_subset hsub)
  | leaf _ _ _ _ _ ih =>
    intro owner set hset hsub f hf inner hinner
    rcases mem_allFields_guarded.mp hf with hf | hf
    · rw [Resolve.makeField, allFields_singleton] at hf
      cases List.mem_singleton.mp hf
      cases hinner
    · exact ih hset (List.subset_of_cons_subset hsub) f hf inner hinner
  | composite _ _ _ hres _ _ ihi ih =>
    intro owner set hset hsub f hf inner hinner
    have hsub' := Language.HasSet.field hset (hsub List.mem_cons_self)
    rcases mem_allFields_guarded.mp hf with hf | hf
    · rw [Resolve.makeField, allFields_singleton] at hf
      rcases List.mem_cons.mp hf with rfl | hf
      · cases hinner
        exact begins_of_resolves hres (hsets _ hsub')
      · exact ihi hsub' (List.Subset.refl _) f hf inner hinner
    · exact ih hset (List.subset_of_cons_subset hsub) f hf inner hinner
  | spread _ _ ih =>
    intro owner set hset hsub f hf
    rw [allFields_append, allFields_guardAll] at hf
    exact ih hset (List.subset_of_cons_subset hsub) f hf
  | splice _ _ _ ihi ih =>
    intro owner set hset hsub f hf
    rcases mem_allFields_guarded.mp hf with hf | hf
    · exact ihi (.inline hset (hsub List.mem_cons_self)) (List.Subset.refl _) f hf
    · exact ih hset (List.subset_of_cons_subset hsub) f hf
  | narrow _ _ _ _ ihi ih =>
    intro owner set hset hsub f hf
    rcases mem_allFields_guarded.mp hf with hf | hf
    · rw [allFields, Selection.fields, allFields, List.append_nil] at hf
      exact ihi (.inline hset (hsub List.mem_cons_self)) (List.Subset.refl _) f hf
    · exact ih hset (List.subset_of_cons_subset hsub) f hf

/-- The sets of fields and fragments of a resolved document begin with `__typename` if those of the document do. -/
theorem Context.HoldsOwned.begins {options : Options} {d : Language.Document} {c : Context}
    (hsets : ∀ owner set, Language.HasSet d owner set → owner.tellsType = true → Language.TypenameFirst set)
    (hc : Context.ofDocument s options d = .ok c) {set : SelectionSet} (h : c.HoldsOwned set) : BeginsTyped set.selections := by
  have hfields : ∀ set, Language.HasSet d .field set → Language.TypenameFirst set := fun set hset => hsets .field set hset rfl
  cases h with
  | fragment hf =>
    obtain ⟨written, hwritten, hfr⟩ := Context.fragment_of_ofDocument hc hf
    obtain ⟨-, -, -, _, -, -, hres⟩ := Resolve.fragment_ok hfr
    exact begins_of_resolves hres (hsets .fragment _ (.fragment (Language.mem_of_fragment? hwritten)) rfl)
  | field hheld hx hset =>
    refine hheld.fields (P := fun f => ∀ inner, f.selectionSet = some inner → BeginsTyped inner.selections) ?_ ?_ _
      (fields_subset_of_mem hx (mem_fields_self _)) _ hset
    · intro name o ho
      obtain ⟨written, hwritten, hor⟩ := Context.operation_of_ofDocument hc ho
      obtain ⟨-, _, -, hres⟩ := Resolve.operation_ok hor
      exact fieldsBegin_of_resolves hfields hres (.operation (Language.mem_of_operation? hwritten)) (List.Subset.refl _)
    · intro name g hg
      obtain ⟨written, hwritten, hfr⟩ := Context.fragment_of_ofDocument hc hg
      obtain ⟨-, -, -, _, -, -, hres⟩ := Resolve.fragment_ok hfr
      exact fieldsBegin_of_resolves hfields hres (.fragment (Language.mem_of_fragment? hwritten)) (List.Subset.refl _)

end

/-! ## What the passes and the collecting keep -/

section
variable {c : Context} {set : SelectionSet}

/-- What is collected from a set that begins with `__typename` begins with it. -/
theorem BeginsTyped.collectFields (h : BeginsTyped set.selections) {types : List String} {fields : Entries Field}
    (hfields : set.collectFields types = .ok fields) : ∃ f rest, fields.values = f :: rest ∧ f.IsTypename := by
  obtain ⟨f, rest, hset, hf⟩ := h
  rw [occurring_of_collectFields hfields, hset, allOccurring, Selection.occurring, List.singleton_append, grouped]
  refine ⟨_, _, rfl, hf.key, hf.name, ?_⟩
  simp [Occurrence.mergedWith, Occurrence.conditional, hf.unconditional]

/-- Replacing spreads and splicing in redundant type conditions leave `__typename` at the front. -/
theorem BeginsTyped.passes (h : BeginsTyped set.selections) {merged : SelectionSet} (hm : c.mergeSpreads set = .ok merged) :
    BeginsTyped merged.inlineRedundant.selections := by
  obtain ⟨f, rest, hset, hf⟩ := h
  obtain ⟨sels, hsels, hm⟩ := bind_eq_ok.mp hm
  cases pure_eq_ok.mp hm
  rw [hset] at hsels
  obtain ⟨first, others, hfirst, -, rfl⟩ := mergeAll_cons_ok hsels
  cases hfirst
  exact ⟨f, inlineAll set.possibleTypes others, rfl, hf⟩

/-- The record case of a set that begins with `__typename`, with or without the passes, has it first among what all possible
types have in common. -/
theorem BeginsTyped.cases (h : BeginsTyped set.selections) {cases : RecordCase}
    (hcases : c.casesOf set = .ok cases ∨ RecordCase.ofSet set = .ok cases) :
    ∃ f rest, cases.common.fields = f :: rest ∧ f.IsTypename := by
  rcases hcases with hcases | hcases
  · obtain ⟨merged, fields, hm, hfields, hcommon, -⟩ := casesOf_ok hcases
    rw [hcommon]
    exact (h.passes hm).collectFields hfields
  · obtain ⟨fields, hfields, hcases⟩ := bind_eq_ok.mp hcases
    obtain ⟨records, -, hcases⟩ := bind_eq_ok.mp hcases
    cases pure_eq_ok.mp hcases
    exact h.collectFields hfields

end

/-- Insertion of `__typename` is exact and changes nothing the second time. Take any document. After insertion, at any depth:
a set of a field or a fragment starts with a plain `__typename` and has no other one without a label. Every set stands at the
place of a set that was there, and the selections that last are the same in both, in the same order; in a set of an operation
or an inline fragment all of them last. What deletion leaves of the document is the same as before insertion. A second
insertion changes nothing. And in whatever context the document is resolved to with insertion, what the possible types of a
field's or fragment's set have in common begins with `__typename`, not conditional, with the passes and without them; there is
such a record wherever the fragments are declared and acyclic. -/
theorem typename_insertion_exact (d : Language.Document) :
    (∀ owner set, Language.HasSet (Language.addTypename d) owner set → owner.tellsType = true → Language.TypenameFirst set) ∧
      (∀ owner set', Language.HasSet (Language.addTypename d) owner set' →
        ∃ set, Language.Counterparts d (Language.addTypename d) owner set set') ∧
      (∀ owner set set', Language.Counterparts d (Language.addTypename d) owner set set' →
        (owner.lasting set').map Language.Selection.bare = (owner.lasting set).map Language.Selection.bare ∧
          (owner.tellsType = false → set'.map Language.Selection.bare = set.map Language.Selection.bare)) ∧
      Language.withoutTypename (Language.addTypename d) = Language.withoutTypename d ∧
      Language.addTypename (Language.addTypename d) = Language.addTypename d ∧
      ∀ (s : Schema) (options : Options) (c : Context), options.addTypename = true → Context.resolve s options d = .ok c →
        ∀ set, c.HoldsOwned set →
          (∀ cases, c.casesOf set = .ok cases ∨ RecordCase.ofSet set = .ok cases →
            ∃ f rest, cases.common.fields = f :: rest ∧ f.IsTypename) ∧
          (c.Acyclic → c.SpreadsDeclared → c.Declares set.selections → ∃ cases, c.casesOf set = .ok cases) := by
  refine ⟨fun _ _ => Language.typenameFirst_of_hasSet, fun _ _ => Language.exists_counterpart, ?_,
    Language.withoutTypename_addTypename d, Language.addTypename_twice d, ?_⟩
  · intro owner set set' h
    refine ⟨h.bare, fun htells => ?_⟩
    simpa [Language.SetOwner.lasting, htells] using h.bare
  · intro s options c hoptions hc set hset
    rw [Context.resolve, if_pos hoptions] at hc
    refine ⟨fun _ => (hset.begins (fun _ _ => Language.typenameFirst_of_hasSet) hc).cases, ?_⟩
    intro acyclic declared here
    obtain ⟨merged, hm⟩ := Context.mergeSpreads_ok acyclic declared here
    exact exists_casesOf hm

/-- What is asked of a pet, with `__typename` under a guard, repeated, labelled and in an inline fragment. -/
def taggedSelections : List Language.Selection :=
  [.field none "__typename" [] [⟨"include", [⟨"if", .var "loud", 0⟩]⟩] none,
   .inline (some "Dog") [] [.field none "barks" [] [] none, .field none "__typename" [] [] none],
   .field (some "kind") "__typename" [] [] none, .field none "__typename" [] [] none, .spread "Tag" []]

/-- A query for a pet with a fragment that asks for `__typename` only. -/
def taggedDocument : Language.Document :=
  [.operation ⟨none, .query, some "Pet", [], [], [.field none "pet" [] [] (some taggedSelections)]⟩,
   .fragment ⟨none, "Tag", "Pet", [], [.field none "__typename" [] [] none]⟩]

/-- The context of the query with insertion. -/
def taggedContext : Context := (Context.resolve petSchema {} taggedDocument).toOption.getD default

/-- The set of what is asked of a pet, with insertion. -/
def taggedAsked : SelectionSet :=
  match taggedContext.operations.values.flatMap fun o => o.set.selections with
  | [Selection.field f] => f.selectionSet.getD default
  | _ => default

/-- The fragment spreads nothing. -/
theorem taggedContext_acyclic : taggedContext.Acyclic :=
  Context.acyclic_of_rank (fun _ => 0) (by decide)

theorem typename_insertion_exact_tagged :
    Language.Counterparts taggedDocument (Language.addTypename taggedDocument) .field taggedSelections
        (.typename :: [.inline (some "Dog") [] [.field none "barks" [] [] none, .field none "__typename" [] [] none],
          .field (some "kind") "__typename" [] [] none, .spread "Tag" []]) ∧
      Language.addTypename taggedDocument ≠ taggedDocument ∧
      Language.addTypename (Language.addTypename taggedDocument) = Language.addTypename taggedDocument ∧
      Context.resolve petSchema {} taggedDocument = .ok taggedContext ∧ taggedContext.HoldsOwned taggedAsked ∧
      ∃ cases, taggedContext.casesOf taggedAsked = .ok cases ∧
        ∃ f rest, cases.common.fields = f :: rest ∧ f.IsTypename := by
  have hcounterparts := Language.Counterparts.field (i := 0)
    (@Language.Counterparts.operation taggedDocument (Language.addTypename taggedDocument) 0 _ _ rfl rfl) rfl rfl
  have howned : taggedContext.HoldsOwned taggedAsked :=
    .field (@Context.Holds.operation taggedContext "Pet" _ rfl) List.mem_cons_self rfl
  have hfragments : ∀ e ∈ taggedContext.fragments, ∀ name ∈ allSpreadNames e.2.set.selections,
      taggedContext.fragments.has name = true := by decide
  have hdeclared : taggedContext.SpreadsDeclared := fun _ _ hf => hfragments _ (Entries.mem_of_get? hf)
  have hhere : ∀ name ∈ allSpreadNames taggedAsked.selections, taggedContext.fragments.has name = true := by decide
  obtain ⟨-, -, -, -, htwice, hrecords⟩ := typename_insertion_exact taggedDocument
  obtain ⟨hbegins, hcases⟩ := hrecords petSchema {} taggedContext rfl rfl taggedAsked howned
  obtain ⟨cases, hcases⟩ := hcases taggedContext_acyclic hdeclared hhere
  exact ⟨hcounterparts, nofun, htwice, rfl, howned, cases, hcases, hbegins cases (.inl hcases)⟩

end TypedOperations
