import Mathlib.Data.List.Nodup
import TypedOperations.Declaration.Build
import TypedOperations.Proofs.Selection.Collecting

/-!
# What records describe

Possible types are sorted into records one after another: a type joins the record with the keys of its own fields, or starts a
record with these fields. So every type is in one record, no two records have the same keys, and the fields of a record are
those of its first type (`RecordsOf`). They are the fields of every type in the record exactly if types with the same keys have
the same fields. Keys alone do not give that: one type may have a field unconditionally that another has under a guard.
-/

namespace TypedOperations

/-- The keys that a record is found by. -/
def Record.keys (r : Record) : List String := r.fields.map (·.responseKey)

/-- The fields of the record have the keys that apply to each of its types. -/
def Record.IsOf (set : SelectionSet) (r : Record) : Prop :=
  ∀ t ∈ r.possibleTypes, ∃ fields, set.collectFields [t] = .ok fields ∧ r.fields.map (·.responseKey) = fields.names

/-- The fields of the record are those of its first type. -/
def Record.Led (set : SelectionSet) (r : Record) : Prop :=
  ∃ first rest fields, r.possibleTypes = first :: rest ∧ set.collectFields [first] = .ok fields ∧ r.fields = fields.values

/-- The types in this order are sorted into the records. -/
structure RecordsOf (set : SelectionSet) (ts : List String) (records : List Record) : Prop where
  /-- Every type is in a record, as often as it occurs. -/
  types : (records.flatMap (·.possibleTypes)).Perm ts
  led : ∀ r ∈ records, r.Led set
  keys : ∀ r ∈ records, r.IsOf set
  distinct : (records.map Record.keys).Nodup

section
variable {set : SelectionSet} {records : List Record} {t : String} {fields : Entries Field}

/-! ## One more type -/

/-- One more type leaves a new list of keys at the end if no record has them, and no other trace in the keys of records. -/
theorem addToRecords_keys (hkeys : fields.values.map (·.responseKey) = fields.names) :
    (addToRecords records t fields).map Record.keys =
      if fields.names ∈ records.map Record.keys then records.map Record.keys
      else records.map Record.keys ++ [fields.names] := by
  induction records with
  | nil => simp [addToRecords, Record.keys, hkeys]
  | cons r rest ih =>
    rw [addToRecords]
    split
    · rename_i hsame
      have hr : Record.keys r = fields.names := beq_iff_eq.mp hsame
      simp [Record.keys, ← hr]
    · rename_i hother
      have hr : fields.names ≠ Record.keys r := fun h => hother (beq_iff_eq.mpr h.symm)
      rw [List.map_cons, ih, List.map_cons]
      by_cases hin : fields.names ∈ rest.map Record.keys
      · rw [if_pos hin, if_pos (List.mem_cons_of_mem _ hin)]
      · rw [if_neg hin, if_neg (by simpa [hr] using hin), List.cons_append]

/-- One more type is in one more place. -/
theorem addToRecords_types :
    ((addToRecords records t fields).flatMap (·.possibleTypes)).Perm (records.flatMap (·.possibleTypes) ++ [t]) := by
  induction records with
  | nil => simp [addToRecords]
  | cons r rest ih =>
    rw [addToRecords]
    split
    · simp only [List.flatMap_cons, List.append_assoc]
      exact List.perm_append_comm.append_left _
    · simp only [List.flatMap_cons, List.append_assoc]
      exact ih.append_left _

/-- One more type leaves the fields of records as they are, and starts a record with its own. -/
theorem addToRecords_led (ht : set.collectFields [t] = .ok fields) (h : ∀ r ∈ records, r.Led set) :
    ∀ r ∈ addToRecords records t fields, r.Led set := by
  induction records with
  | nil =>
    intro r hr
    cases List.mem_singleton.mp hr
    exact ⟨t, [], fields, rfl, ht, rfl⟩
  | cons first rest ih =>
    intro r hr
    rw [addToRecords] at hr
    split at hr
    · rcases List.mem_cons.mp hr with rfl | hr
      · obtain ⟨u, us, own, htypes, hown, hfields⟩ := h first List.mem_cons_self
        exact ⟨u, us ++ [t], own, by rw [htypes, List.cons_append], hown, hfields⟩
      · exact h r (List.mem_cons_of_mem _ hr)
    · rcases List.mem_cons.mp hr with rfl | hr
      · exact h r List.mem_cons_self
      · exact ih (fun r hr => h r (List.mem_cons_of_mem _ hr)) r hr

/-- One more type leaves records whose fields have the keys of their types. -/
theorem addToRecords_isOf (ht : set.collectFields [t] = .ok fields)
    (hkeys : fields.values.map (·.responseKey) = fields.names) (h : ∀ r ∈ records, r.IsOf set) :
    ∀ r ∈ addToRecords records t fields, r.IsOf set := by
  induction records with
  | nil =>
    intro r hr u hu
    cases List.mem_singleton.mp hr
    cases List.mem_singleton.mp hu
    exact ⟨fields, ht, hkeys⟩
  | cons first rest ih =>
    intro r hr
    rw [addToRecords] at hr
    split at hr
    · rename_i hsame
      rcases List.mem_cons.mp hr with rfl | hr
      · intro u hu
        rcases List.mem_append.mp hu with hu | hu
        · exact h first List.mem_cons_self u hu
        · cases List.mem_singleton.mp hu
          exact ⟨fields, ht, beq_iff_eq.mp hsame⟩
      · exact h r (List.mem_cons_of_mem _ hr)
    · rcases List.mem_cons.mp hr with rfl | hr
      · exact h r List.mem_cons_self
      · exact ih (fun r hr => h r (List.mem_cons_of_mem _ hr)) r hr

/-- One more type is sorted in. -/
theorem RecordsOf.add {ts : List String} (h : RecordsOf set ts records) (ht : set.collectFields [t] = .ok fields)
    (hkeys : fields.values.map (·.responseKey) = fields.names) :
    RecordsOf set (ts ++ [t]) (addToRecords records t fields) := by
  refine ⟨addToRecords_types.trans (h.types.append_right [t]), addToRecords_led ht h.led,
    addToRecords_isOf ht hkeys h.keys, ?_⟩
  rw [addToRecords_keys hkeys]
  split
  · exact h.distinct
  · rename_i hnew
    exact List.nodup_append.mpr ⟨h.distinct, List.nodup_singleton _, by
      rintro a ha b hb rfl
      exact hnew (List.mem_singleton.mp hb ▸ ha)⟩

/-! ## All types -/

theorem RecordsOf.nil : RecordsOf set [] [] := ⟨List.Perm.refl _, by simp, by simp, List.nodup_nil⟩

/-- Types are sorted into records one after another. -/
theorem RecordsOf.run
    (hkeys : ∀ t fields, set.collectFields [t] = .ok fields → fields.values.map (·.responseKey) = fields.names)
    {more : List String} {out : List Record} :
    ∀ {ts : List String} {records : List Record}, RecordsOf set ts records → recordsFrom set records more = .ok out →
      RecordsOf set (ts ++ more) out := by
  induction more with
  | nil =>
    intro ts records h hr
    cases hr
    rwa [List.append_nil]
  | cons t rest ih =>
    intro ts records h hr
    obtain ⟨fields, ht, hr⟩ := bind_eq_ok.mp hr
    have hadd := ih (h.add ht (hkeys t fields ht)) hr
    rwa [List.append_assoc] at hadd

end

section
variable {set : SelectionSet}

/-- The fields that are collected for a type are filed under their response keys. -/
theorem responseKeys_of_collectFields (plain : allSpreadNames set.selections = []) {t : String} {fields : Entries Field}
    (h : set.collectFields [t] = .ok fields) : fields.values.map (·.responseKey) = fields.names := by
  rw [collectFields_occurring plain] at h
  cases h
  exact grouped_responseKeys _

/-- Types can be sorted into records if their fields can be collected. -/
theorem recordsFrom_ok {ts : List String} (h : ∀ t ∈ ts, ∃ fields, set.collectFields [t] = .ok fields) :
    ∀ records, ∃ out, recordsFrom set records ts = .ok out := by
  induction ts with
  | nil => exact fun records => ⟨records, rfl⟩
  | cons t rest ih =>
    intro records
    obtain ⟨fields, ht⟩ := h t List.mem_cons_self
    obtain ⟨out, hout⟩ := ih (fun u hu => h u (List.mem_cons_of_mem t hu)) (addToRecords records t fields)
    exact ⟨out, by rw [recordsFrom, ht]; exact hout⟩

/-- A set without spreads has a record case, with all of its possible types sorted in. -/
theorem recordsOf_ofSet (plain : allSpreadNames set.selections = []) :
    ∃ cases, RecordCase.ofSet set = .ok cases ∧ RecordsOf set set.possibleTypes cases.records := by
  obtain ⟨records, hr⟩ :=
    recordsFrom_ok (fun t (_ : t ∈ set.possibleTypes) => ⟨_, collectFields_occurring plain [t]⟩) []
  have hfields := collectFields_occurring plain set.possibleTypes
  exact ⟨_, bind_eq_ok.mpr ⟨_, hfields, bind_eq_ok.mpr ⟨records, hr, rfl⟩⟩,
    RecordsOf.nil.run (fun _ _ => responseKeys_of_collectFields plain) hr⟩

end

/-! ## Sets before the passes -/

section
variable {c : Context} {set merged : SelectionSet} {cases : RecordCase}

/-- A set has a record case if its spreads can be replaced, whatever its possible types are. -/
theorem exists_casesOf (hm : c.mergeSpreads set = .ok merged) : ∃ cases, c.casesOf set = .ok cases := by
  obtain ⟨cases, hcases, -⟩ := recordsOf_ofSet (Context.passes_of_mergeSpreads hm).2
  exact ⟨cases, bind_eq_ok.mpr ⟨merged, hm, hcases⟩⟩

/-- The record case of a set has the possible types of the set sorted in, and what all of them have in common, by their fields
after the passes. -/
theorem recordsOf_casesOf (h : c.casesOf set = .ok cases) :
    ∃ merged fields, c.mergeSpreads set = .ok merged ∧ RecordsOf merged.inlineRedundant set.possibleTypes cases.records ∧
      merged.inlineRedundant.collectFields set.possibleTypes = .ok fields ∧ cases.common.fields = fields.values := by
  obtain ⟨merged, fields, hm, hfields, hcommon, hrecords⟩ := casesOf_ok h
  have hplain := (Context.passes_of_mergeSpreads hm).2
  exact ⟨merged, fields, hm, RecordsOf.nil.run (fun _ _ => responseKeys_of_collectFields hplain) hrecords, hfields,
    by rw [hcommon]⟩

/-- Every possible type is in a record, and a record it is in has the keys that a visit for the type meets. -/
theorem records_of_casesOf (hc : c.FragmentsCover) (hguards : AllGuardsCover set.possibleTypes set.selections)
    {type : String} (hpossible : type ∈ set.possibleTypes) (hcases : c.casesOf set = .ok cases) {os : List Occurrence}
    (h : c.Walks (.collecting [type]) set.selections os) :
    (∃ r ∈ cases.records, type ∈ r.possibleTypes) ∧
      ∀ r ∈ cases.records, type ∈ r.possibleTypes → r.fields.map (·.responseKey) = (grouped os).names := by
  obtain ⟨merged, -, hm, hof, -⟩ := recordsOf_casesOf hcases
  refine ⟨List.mem_flatMap.mp (hof.types.mem_iff.mpr hpossible), fun r hr ht => ?_⟩
  obtain ⟨fields, hf, hnames⟩ := hof.keys r hr type ht
  rw [collectFields_of_mergeSpreads hc hguards (by simp) (by simpa using hpossible) hm h] at hf
  cases hf
  exact hnames

end

/-- What records describe. A set without spreads has a record case, in which every possible type is in one record. The fields of
a record are those of its first type, and have the keys that each of its types has. So the record of every type has exactly the
fields of the type if, and only if, possible types with the same keys have the same fields. -/
theorem records_describe_iff (set : SelectionSet) (plain : allSpreadNames set.selections = []) :
    ∃ cases, RecordCase.ofSet set = .ok cases ∧
      (∀ t ∈ set.possibleTypes, ∃! r, r ∈ cases.records ∧ t ∈ r.possibleTypes) ∧
      (∀ r ∈ cases.records, ∃ first rest fields, r.possibleTypes = first :: rest ∧ first ∈ set.possibleTypes ∧
        set.collectFields [first] = .ok fields ∧ r.fields = fields.values ∧
        ∀ t ∈ r.possibleTypes, ∃ own, set.collectFields [t] = .ok own ∧ own.names = fields.names) ∧
      ((∀ t ∈ set.possibleTypes, ∀ r ∈ cases.records, t ∈ r.possibleTypes →
          ∀ own, set.collectFields [t] = .ok own → r.fields = own.values) ↔
        ∀ t ∈ set.possibleTypes, ∀ u ∈ set.possibleTypes, ∀ own other, set.collectFields [t] = .ok own →
          set.collectFields [u] = .ok other → own.names = other.names → own = other) := by
  obtain ⟨cases, hcases, h⟩ := recordsOf_ofSet plain
  have hkeys : ∀ {r t own}, r ∈ cases.records → t ∈ r.possibleTypes → set.collectFields [t] = .ok own →
      r.keys = own.names := by
    intro r t own hr ht hown
    obtain ⟨own', hown', hnames⟩ := h.keys r hr t ht
    rw [hown] at hown'
    cases hown'
    exact hnames
  have hmem : ∀ {t}, t ∈ set.possibleTypes ↔ ∃ r ∈ cases.records, t ∈ r.possibleTypes := by
    intro t
    rw [← h.types.mem_iff, List.mem_flatMap]
  have hcollect : ∀ t, ∃ own, set.collectFields [t] = .ok own := fun t => ⟨_, collectFields_occurring plain [t]⟩
  -- records with the same keys are the same record
  have hsame : ∀ {r r'}, r ∈ cases.records → r' ∈ cases.records → r.keys = r'.keys → r = r' :=
    fun hr hr' => List.inj_on_of_nodup_map h.distinct hr hr'
  have hled : ∀ r ∈ cases.records, ∃ first rest fields, r.possibleTypes = first :: rest ∧ first ∈ set.possibleTypes ∧
      set.collectFields [first] = .ok fields ∧ r.fields = fields.values ∧
      ∀ t ∈ r.possibleTypes, ∃ own, set.collectFields [t] = .ok own ∧ own.names = fields.names := by
    intro r hr
    obtain ⟨first, rest, fields, htypes, hfields, hvalues⟩ := h.led r hr
    have hfirst : first ∈ r.possibleTypes := htypes ▸ List.mem_cons_self
    refine ⟨first, rest, fields, htypes, hmem.mpr ⟨r, hr, hfirst⟩, hfields, hvalues, fun t ht => ?_⟩
    obtain ⟨own, hown⟩ := hcollect t
    exact ⟨own, hown, by rw [← hkeys hr ht hown, hkeys hr hfirst hfields]⟩
  refine ⟨cases, hcases, fun t ht => ?_, hled, ?_, ?_⟩
  · obtain ⟨r, hr, htr⟩ := hmem.mp ht
    obtain ⟨own, hown⟩ := hcollect t
    refine ⟨r, ⟨hr, htr⟩, ?_⟩
    rintro r' ⟨hr', htr'⟩
    exact hsame hr' hr (by rw [hkeys hr' htr' hown, hkeys hr htr hown])
  · intro hdescribe t ht u hu own other hown hother hnames
    obtain ⟨r, hr, htr⟩ := hmem.mp ht
    obtain ⟨r', hr', hur'⟩ := hmem.mp hu
    have hrr' : r = r' := hsame hr hr' (by rw [hkeys hr htr hown, hkeys hr' hur' hother, hnames])
    subst hrr'
    exact Entries.ext_values hnames (by rw [← hdescribe t ht r hr htr own hown, hdescribe u hu r hr hur' other hother])
  · intro hagree t ht r hr htr own hown
    obtain ⟨first, rest, fields, -, hfirst, hfields, hvalues, hnames⟩ := hled r hr
    obtain ⟨own', hown', hown_names⟩ := hnames t htr
    rw [hown] at hown'
    cases hown'
    rw [hvalues, hagree t ht first hfirst own fields hown hfields hown_names]

/-- The name of a pet, which every pet has. -/
def petName : Field := { responseKey := "name", name := "name", type := .named ⟨"String", .scalar⟩ true }

/-- The names of pets: of a cat in any case, of a dog only if a variable says so. -/
def namedPets : SelectionSet :=
  ⟨["Cat", "Dog"],
    [.typeCondition ⟨"Cat", .object⟩ ⟨["Cat"], [.field petName]⟩,
     .typeCondition ⟨"Dog", .object⟩ ⟨["Dog"], [.guarded "named" false ⟨["Dog"], [.field petName]⟩]⟩]⟩

theorem records_describe_iff_namedPets :
    allSpreadNames namedPets.selections = [] ∧ ∃ cases, RecordCase.ofSet namedPets = .ok cases ∧
      (∀ t ∈ namedPets.possibleTypes, ∃! r, r ∈ cases.records ∧ t ∈ r.possibleTypes) ∧
      (∀ r ∈ cases.records, ∃ first rest fields, r.possibleTypes = first :: rest ∧ first ∈ namedPets.possibleTypes ∧
        namedPets.collectFields [first] = .ok fields ∧ r.fields = fields.values ∧
        ∀ t ∈ r.possibleTypes, ∃ own, namedPets.collectFields [t] = .ok own ∧ own.names = fields.names) ∧
      ((∀ t ∈ namedPets.possibleTypes, ∀ r ∈ cases.records, t ∈ r.possibleTypes →
          ∀ own, namedPets.collectFields [t] = .ok own → r.fields = own.values) ↔
        ∀ t ∈ namedPets.possibleTypes, ∀ u ∈ namedPets.possibleTypes, ∀ own other, namedPets.collectFields [t] = .ok own →
          namedPets.collectFields [u] = .ok other → own.names = other.names → own = other) :=
  ⟨rfl, records_describe_iff namedPets rfl⟩

/-- The class of the named pets. -/
def namedPetsScope : RecordScope := ⟨default, "Pet", [], ["as_cat", "as_dog"]⟩

/-- A record that does not describe one of its types. A dog has a name only if the variable says so, but it shares the record of
a cat, in which the name is unconditional; the factory for dogs asks for a name in any case. -/
theorem record_misdescribes_dog :
    ∃ cases r own factories, RecordCase.ofSet namedPets = .ok cases ∧ r ∈ cases.records ∧ "Dog" ∈ r.possibleTypes ∧
      namedPets.collectFields ["Dog"] = .ok own ∧ r.fields.map (·.conditional) = [false] ∧
      own.values.map (·.conditional) = [true] ∧ r.fields ≠ own.values ∧
      namedPetsScope.factories cases = .ok factories ∧
      ∃ f ∈ factories, f.name = "make_dog" ∧ f.properties.map (fun p => (p.name, p.optional)) = [("name", false)] := by
  refine ⟨_, _, _, _, rfl, List.mem_cons_self, by decide, rfl, rfl, rfl, ?_, rfl, _,
    List.mem_cons_of_mem _ List.mem_cons_self, by decide +kernel, rfl⟩
  intro h
  exact absurd (congrArg (List.map (·.conditional)) h) (by decide)

end TypedOperations
