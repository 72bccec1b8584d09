import Mathlib.Data.List.Flatten
import TypedOperations.Proofs.Selection.Describing

/-!
# Fields for fewer types

A type condition is entered for some types if it allows all of them, so it is entered for any fewer of them too. What is met
for all types of a list is therefore met for each part of the list, in the same order and among more (`sublist_allOccurring`).
Further occurrences of a key leave its field in place: they can only make it unconditional and put sub-selections between those
that it has (`FieldOf.Extends`). So the fields that all possible types have in common are in every record.
-/

namespace TypedOperations

/-- The sub-selections of the field in order. -/
def FieldOf.subselections (f : Field) : List Selection :=
  (f.selectionSet.map (·.selections)).getD []

/-- The field is another one with further occurrences of its key: it is conditional only if the other one is, and has the
sub-selections of the other one in order. -/
structure FieldOf.Extends (f other : Field) : Prop where
  key : f.responseKey = other.responseKey
  conditional : f.conditional = true → other.conditional = true
  subselections : other.subselections.Sublist f.subselections

section
variable {fewer more : List String} {os os' : List Occurrence}

/-! ## Occurrences -/

/-- A set that is entered for some types is entered for any fewer, as long as there are any. -/
theorem enters_of_subset {ts : List String} (nonempty : fewer ≠ []) (hsub : fewer ⊆ more)
    (h : (!more.isEmpty && more.all ts.contains) = true) : (!fewer.isEmpty && fewer.all ts.contains) = true := by
  have hmore : more ⊆ ts := coveredBy_iff.mp (Bool.and_eq_true_iff.mp h).2
  refine Bool.and_eq_true_iff.mpr ⟨by simpa using nonempty, ?_⟩
  exact coveredBy_iff.mpr (List.Subset.trans hsub hmore)

/-- What occurs for some types occurs for any fewer, in the same order. -/
theorem sublist_allOccurring (nonempty : fewer ≠ []) (hsub : fewer ⊆ more) (sels : List Selection) :
    (allOccurring more sels).Sublist (allOccurring fewer sels) := by
  induction sels using selections_induction with
  | nil => exact List.Sublist.refl _
  | field f rest _ ih => exact ih.cons_cons _
  | typeCondition t ts inner rest ihi ih =>
    rw [allOccurring, allOccurring, Selection.occurring, Selection.occurring]
    refine List.Sublist.append ?_ ih
    split
    · rename_i henters
      rw [if_pos (enters_of_subset nonempty hsub henters)]
      exact ihi
    · exact List.nil_sublist _
  | spread name rest ih => exact ih
  | guarded flag inverted ts inner rest ihi ih => exact (ihi.map _).append ih

/-! ## Fields -/

/-- The sub-selections of a group are those of its occurrences, in order. -/
theorem subselections_mergedWith (o : Occurrence) (rest : List Occurrence) :
    (o.mergedWith rest).subselections = (Occurrence.subsets (o :: rest)).flatMap (·.selections) := by
  have hset : (o.mergedWith rest).selectionSet = concatenated (Occurrence.subsets (o :: rest)) := rfl
  rw [FieldOf.subselections, hset]
  cases Occurrence.subsets (o :: rest) <;> rfl

/-- With occurrences put between those of a group, its field is extended. -/
theorem mergedWith_extends {o o' : Occurrence} {rest rest' : List Occurrence} (hkey : o.key = o'.key)
    (h : (o' :: rest').Sublist (o :: rest)) : (o.mergedWith rest).Extends (o'.mergedWith rest') := by
  refine ⟨hkey, fun hall => ?_, ?_⟩
  · have hconditional : ∀ p ∈ o :: rest, p.conditional = true := List.all_eq_true.mp hall
    exact List.all_eq_true.mpr fun p hp => hconditional p (h.subset hp)
  · rw [subselections_mergedWith, subselections_mergedWith]
    exact (h.filterMap _).flatMap _

/-- With occurrences put between others, every group stays, and its field is extended. -/
theorem grouped_extends (h : os'.Sublist os) {key : String} {f' : Field} (hf' : (key, f') ∈ grouped os') :
    ∃ f, (grouped os).get? key = some f ∧ f.Extends f' := by
  obtain ⟨o', rest', hgroup', rfl⟩ : ∃ o' rest', Occurrence.withKey key os' = o' :: rest' ∧ f' = o'.mergedWith rest' :=
    mem_grouped hf'
  have hkeyed : (Occurrence.withKey key os').Sublist (Occurrence.withKey key os) := h.filter _
  have ho' : o' ∈ Occurrence.withKey key os' := by simp [hgroup']
  have hname : key ∈ (grouped os).names := mem_grouped_names.mpr ⟨o', Occurrence.mem_withKey.mp (hkeyed.subset ho')⟩
  obtain ⟨f, hget⟩ := Entries.has_iff.mp (Entries.has_iff_mem_names.mpr hname)
  obtain ⟨o, rest, hgroup, rfl⟩ : ∃ o rest, Occurrence.withKey key os = o :: rest ∧ f = o.mergedWith rest :=
    mem_grouped (Entries.mem_of_get? hget)
  have ho : o ∈ Occurrence.withKey key os := by simp [hgroup]
  have hsame : o.key = o'.key := by rw [(Occurrence.mem_withKey.mp ho).2, (Occurrence.mem_withKey.mp ho').2]
  rw [hgroup', hgroup] at hkeyed
  exact ⟨_, hget, mergedWith_extends hsame hkeyed⟩

end

/-! ## Collected fields -/

section
variable {set : SelectionSet}

/-- The fields that are collected for some types are extended by those for any fewer. -/
theorem extends_of_collectFields {fewer more : List String} (nonempty : fewer ≠ []) (hsub : fewer ⊆ more)
    {fields fields' : Entries Field} (h : set.collectFields fewer = .ok fields) (h' : set.collectFields more = .ok fields')
    {key : String} {f' : Field} (hf' : (key, f') ∈ fields') : ∃ f, fields.get? key = some f ∧ f.Extends f' := by
  rw [occurring_of_collectFields h'] at hf'
  rw [occurring_of_collectFields h]
  exact grouped_extends (sublist_allOccurring nonempty hsub set.selections) hf'

/-- A record case has in common what is collected for all possible types. -/
theorem RecordCase.common_of_ofSet {cases : RecordCase} (h : RecordCase.ofSet set = .ok cases) :
    ∃ fields, set.collectFields set.possibleTypes = .ok fields ∧ cases.common.fields = fields.values := by
  obtain ⟨fields, hfields, h⟩ := bind_eq_ok.mp h
  obtain ⟨records, -, h⟩ := bind_eq_ok.mp h
  cases pure_eq_ok.mp h
  exact ⟨fields, hfields, rfl⟩

/-- The fields that all possible types have in common are extended in every record. -/
theorem RecordsOf.extends_common {cases : RecordCase} (hcases : RecordCase.ofSet set = .ok cases)
    (h : RecordsOf set set.possibleTypes cases.records) {r : Record} (hr : r ∈ cases.records) {f' : Field}
    (hf' : f' ∈ cases.common.fields) : ∃ f ∈ r.fields, f.Extends f' := by
  obtain ⟨first, rest, fields, htypes, hfields, hvalues⟩ := h.led r hr
  obtain ⟨fields', hfields', hcommon⟩ := RecordCase.common_of_ofSet hcases
  have hfirst : [first] ⊆ set.possibleTypes := by
    refine List.cons_subset.mpr ⟨h.types.mem_iff.mp ?_, List.nil_subset _⟩
    exact List.mem_flatMap.mpr ⟨r, hr, htypes ▸ List.mem_cons_self⟩
  rw [hcommon] at hf'
  obtain ⟨⟨key, g⟩, he, rfl⟩ := List.mem_map.mp hf'
  obtain ⟨f, hget, hextends⟩ := extends_of_collectFields (List.cons_ne_nil _ _) hfirst hfields hfields' he
  refine ⟨f, ?_, hextends⟩
  rw [hvalues]
  exact List.mem_map.mpr ⟨(key, f), Entries.mem_of_get? hget, rfl⟩

end

/-- Collecting is antitone in the types. In a set without spreads, take any types and some of them, at least one. Every key that
is collected for all of the types is collected for some of them: there its field is conditional only if it is so for all, and
the sub-selections for all are among those for some, in their order. So every field that the possible types of the set have in
common is, in this sense, in every record. -/
theorem collectFields_antitone (set : SelectionSet) (plain : allSpreadNames set.selections = []) :
    (∀ fewer more : List String, fewer ≠ [] → fewer ⊆ more →
      ∃ fields fields', set.collectFields fewer = .ok fields ∧ set.collectFields more = .ok fields' ∧
        ∀ key f', fields'.get? key = some f' → ∃ f, fields.get? key = some f ∧ f.Extends f') ∧
      ∃ cases, RecordCase.ofSet set = .ok cases ∧
        ∀ r ∈ cases.records, ∀ f' ∈ cases.common.fields, ∃ f ∈ r.fields, f.Extends f' := by
  constructor
  · intro fewer more nonempty hsub
    have hfewer := collectFields_occurring plain fewer
    have hmore := collectFields_occurring plain more
    exact ⟨_, _, hfewer, hmore, fun key f' hf' =>
      extends_of_collectFields nonempty hsub hfewer hmore (Entries.mem_of_get? hf')⟩
  · obtain ⟨cases, hcases, h⟩ := recordsOf_ofSet plain
    exact ⟨cases, hcases, fun r hr f' hf' => h.extends_common hcases hr hf'⟩

/-- A part of the home of a pet. -/
def homePart (name : String) : Selection :=
  .field { responseKey := name, name := name, type := .named ⟨"String", .scalar⟩ true }

/-- The home of a pet, with some of its parts. -/
def petHome (parts : List String) : Selection :=
  .field
    { responseKey := "home", name := "home", type := .named ⟨"Home", .object⟩ true,
      selectionSet := some ⟨["Home"], parts.map homePart⟩ }

/-- The homes of pets: the street if a variable says so, and the city of a dog in any case. -/
def petHomes : SelectionSet :=
  ⟨["Cat", "Dog"],
    [.typeCondition ⟨"Dog", .object⟩ ⟨["Dog"], [petHome ["city"]]⟩,
     .guarded "streets" false ⟨["Cat", "Dog"], [petHome ["street"]]⟩]⟩

theorem collectFields_antitone_petHomes :
    allSpreadNames petHomes.selections = [] ∧ ["Dog"] ≠ [] ∧ ["Dog"] ⊆ ["Cat", "Dog"] ∧
      (∃ fields fields', petHomes.collectFields ["Dog"] = .ok fields ∧ petHomes.collectFields ["Cat", "Dog"] = .ok fields' ∧
        fields.values.map (fun f => (f.responseKey, f.conditional, f.subselections.length)) = [("home", false, 2)] ∧
        fields'.values.map (fun f => (f.responseKey, f.conditional, f.subselections.length)) = [("home", true, 1)] ∧
        ∀ key f', fields'.get? key = some f' → ∃ f, fields.get? key = some f ∧ f.Extends f') ∧
      ∃ cases, RecordCase.ofSet petHomes = .ok cases ∧
        ∀ r ∈ cases.records, ∀ f' ∈ cases.common.fields, ∃ f ∈ r.fields, f.Extends f' := by
  have hplain : allSpreadNames petHomes.selections = [] := rfl
  obtain ⟨hfields, hrecords⟩ := collectFields_antitone petHomes hplain
  obtain ⟨fields, fields', h, h', hextends⟩ := hfields ["Dog"] ["Cat", "Dog"] (by decide) (by decide)
  refine ⟨hplain, by decide, by decide, ⟨fields, fields', h, h', ?_, ?_, hextends⟩, hrecords⟩
  · cases h
    decide
  · cases h'
    decide

end TypedOperations
