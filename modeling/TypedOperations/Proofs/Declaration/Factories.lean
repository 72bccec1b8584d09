import TypedOperations.Declaration.Render
import TypedOperations.Proofs.Declaration.Properties
import TypedOperations.Proofs.Selection.Describing
import TypedOperations.Proofs.Source.Strings

/-!
# Records and their factories

The records of a set divide its possible types: types are together exactly if the same keys apply to them, and neither records
nor the types in them change the order of the possible types (`KeepsOrder`). A class has a factory for every possible type, and
the snapshot that it makes has the keys that apply to the type.
-/

namespace TypedOperations

/-- The first types of records. -/
def firstTypes (records : List Record) : List String :=
  records.filterMap (·.possibleTypes.head?)

/-- The records have types in this order, and come in the order of their first types. -/
structure KeepsOrder (ts : List String) (records : List Record) : Prop where
  within : ∀ r ∈ records, r.possibleTypes.Sublist ts
  firsts : (firstTypes records).Pairwise fun t u => ts.idxOf t < ts.idxOf u

section
variable {set : SelectionSet} {records : List Record} {ts : List String} {t : String} {fields : Entries Field}

/-- One more type is the first of a record if no record has its keys, and otherwise first types stay. -/
theorem addToRecords_firsts (hfilled : ∀ r ∈ records, r.possibleTypes ≠ []) :
    firstTypes (addToRecords records t fields) =
      if fields.names ∈ records.map Record.keys then firstTypes records else firstTypes records ++ [t] := by
  induction records with
  | nil => rfl
  | cons r rest ih =>
    obtain ⟨u, us, htypes⟩ := List.exists_cons_of_ne_nil (hfilled r List.mem_cons_self)
    have hfirsts : ∀ others, firstTypes (r :: others) = u :: firstTypes others := by
      intro others
      simp [firstTypes, htypes]
    rw [addToRecords]
    split
    · rename_i hsame
      have hr : Record.keys r = fields.names := beq_iff_eq.mp hsame
      rw [if_pos (by simp [← hr]), hfirsts]
      simp [firstTypes, htypes]
    · rename_i hother
      have hr : fields.names ≠ Record.keys r := fun h => hother (beq_iff_eq.mpr h.symm)
      have hkeys : fields.names ∈ (r :: rest).map Record.keys ↔ fields.names ∈ rest.map Record.keys := by simp [hr]
      rw [hfirsts, hfirsts, ih fun r' hr' => hfilled r' (List.mem_cons_of_mem r hr'), ite_congr (propext hkeys) (fun _ => rfl)
        fun _ => rfl]
      split <;> rfl

/-- One more type comes after all others. -/
theorem addToRecords_within (h : ∀ r ∈ records, r.possibleTypes.Sublist ts) :
    ∀ r ∈ addToRecords records t fields, r.possibleTypes.Sublist (ts ++ [t]) := by
  induction records with
  | nil =>
    intro r hr
    cases List.mem_singleton.mp hr
    exact List.sublist_append_right ts [t]
  | cons first rest ih =>
    intro r hr
    rw [addToRecords] at hr
    have hlater : ∀ r' ∈ first :: rest, r'.possibleTypes.Sublist (ts ++ [t]) := fun r' hr' =>
      (h r' hr').trans (List.sublist_append_left ts [t])
    split at hr
    · rcases List.mem_cons.mp hr with rfl | hr
      · exact (h first List.mem_cons_self).append (List.Sublist.refl [t])
      · exact hlater r (List.mem_cons_of_mem first hr)
    · rcases List.mem_cons.mp hr with rfl | hr
      · exact hlater r List.mem_cons_self
      · exact ih (fun r' hr' => h r' (List.mem_cons_of_mem first hr')) r hr

theorem Record.Led.filled {r : Record} (h : r.Led set) : r.possibleTypes ≠ [] := by
  obtain ⟨first, rest, -, htypes, -⟩ := h
  rw [htypes]
  exact List.cons_ne_nil _ _

/-- The first type of a record is one of the types that were sorted in. -/
theorem RecordsOf.mem_of_first (h : RecordsOf set ts records) {u : String} (hu : u ∈ firstTypes records) : u ∈ ts := by
  obtain ⟨r, hr, hfirst⟩ := List.mem_filterMap.mp hu
  exact h.types.mem_iff.mp (List.mem_flatMap.mpr ⟨r, hr, List.mem_of_mem_head? hfirst⟩)

/-- A type whose keys no record has was not sorted in before. -/
theorem RecordsOf.notMem_of_new (h : RecordsOf set ts records) (ht : set.collectFields [t] = .ok fields)
    (hnew : fields.names ∉ records.map Record.keys) : t ∉ ts := by
  intro hmem
  obtain ⟨r, hr, htr⟩ := List.mem_flatMap.mp (h.types.mem_iff.mpr hmem)
  obtain ⟨own, hown, hnames⟩ := h.keys r hr t htr
  rw [ht] at hown
  cases hown
  exact hnew (List.mem_map.mpr ⟨r, hr, hnames⟩)

/-- One more type keeps the order. -/
theorem KeepsOrder.add (h : KeepsOrder ts records) (hof : RecordsOf set ts records) (ht : set.collectFields [t] = .ok fields) :
    KeepsOrder (ts ++ [t]) (addToRecords records t fields) := by
  refine ⟨addToRecords_within h.within, ?_⟩
  have hearlier : (firstTypes records).Pairwise fun a b => (ts ++ [t]).idxOf a < (ts ++ [t]).idxOf b := by
    refine h.firsts.imp_of_mem fun ha hb hab => ?_
    rwa [List.idxOf_append_of_mem (hof.mem_of_first ha), List.idxOf_append_of_mem (hof.mem_of_first hb)]
  rw [addToRecords_firsts fun r hr => (hof.led r hr).filled]
  split
  · exact hearlier
  · rename_i hnew
    refine List.pairwise_append.mpr ⟨hearlier, List.pairwise_singleton _ _, fun a ha b hb => ?_⟩
    have hlast : (ts ++ [t]).idxOf t = ts.length := by
      rw [List.idxOf_append_of_notMem (hof.notMem_of_new ht hnew), List.idxOf_cons_self, Nat.add_zero]
    rw [List.mem_singleton.mp hb, hlast, List.idxOf_append_of_mem (hof.mem_of_first ha)]
    exact List.idxOf_lt_length_iff.mpr (hof.mem_of_first ha)

/-- Types that are sorted in one after another keep their order. -/
theorem KeepsOrder.run
    (hkeys : ∀ t fields, set.collectFields [t] = .ok fields → fields.values.map (·.responseKey) = fields.names)
    {more : List String} {out : List Record} :
    ∀ {ts : List String} {records : List Record}, KeepsOrder ts records → RecordsOf set ts records →
      recordsFrom set records more = .ok out → KeepsOrder (ts ++ more) out := by
  induction more with
  | nil =>
    intro ts records h _ hr
    cases hr
    rwa [List.append_nil]
  | cons t rest ih =>
    intro ts records h hof hr
    obtain ⟨fields, ht, hr⟩ := bind_eq_ok.mp hr
    have hadd := ih (h.add hof ht) (hof.add ht (hkeys t fields ht)) hr
    rwa [List.append_assoc] at hadd

end

/-! ## Records divide the possible types -/

section
variable {set : SelectionSet} {cases : RecordCase} {records : List Record} {t u : String}

/-- Where all fields that apply to possible types have declared types, so have the fields of records. -/
theorem RecordsOf.declared {ts : List String} (h : RecordsOf set ts records)
    (declared : ∀ t ∈ ts, ∀ o ∈ allOccurring [t] set.selections, o.field.type.base.kind ≠ .undeclared) :
    ∀ r ∈ records, ∀ f ∈ r.fields, f.type.base.kind ≠ .undeclared := by
  intro r hr f hf
  obtain ⟨first, rest, fields, htypes, hfields, hvalues⟩ := h.led r hr
  have hfirst : first ∈ ts := h.types.mem_iff.mp (List.mem_flatMap.mpr ⟨r, hr, by simp [htypes]⟩)
  rw [hvalues, occurring_of_collectFields hfields] at hf
  obtain ⟨o, more, hsame, rfl⟩ := mergedWith_of_mem_grouped hf
  have ho : o ∈ Occurrence.withKey (o.mergedWith more).responseKey (allOccurring [first] set.selections) := by simp [hsame]
  exact declared first hfirst o (Occurrence.mem_withKey.mp ho).1

end

/-! ## The factories of a class -/

namespace RecordScope

variable {s : RecordScope} {cases : RecordCase} {common : List String} {fields : List Field} {types : List String}
  {out : List Factory}

theorem propertyFor_name {type : String} {g : Field} {p : Property} (h : s.propertyFor common type g = .ok p) :
    p.name = g.responseKey := by
  unfold propertyFor at h
  split at h <;> exact (Options.fieldProperty_ok h).1

/-- The factories of a record: one for each type, in order, with the properties of the fields of the record. -/
theorem factoriesOf_spec (h : s.factoriesOf common fields types = .ok out) :
    out.map (·.typename) = types ∧ ∀ f ∈ out, f.name = "make_" ++ Naming.snakeCase f.typename ∧
      (ownFields fields).mapM (s.propertyFor common f.typename) = .ok f.properties := by
  induction types generalizing out with
  | nil =>
    cases h
    exact ⟨rfl, by simp⟩
  | cons t rest ih =>
    obtain ⟨properties, hproperties, h⟩ := bind_eq_ok.mp h
    obtain ⟨others, hothers, h⟩ := bind_eq_ok.mp h
    cases pure_eq_ok.mp h
    obtain ⟨htypes, hothers⟩ := ih hothers
    exact ⟨by rw [List.map_cons, htypes], List.forall_mem_cons.mpr ⟨⟨rfl, hproperties⟩, hothers⟩⟩

/-- The factories of a record case: one for each type of each record, with the properties of the fields of the record. Where there
is a single type, all fields are taken for common ones. -/
theorem factories_spec (h : s.factories cases = .ok out) :
    out.map (·.typename) = cases.records.flatMap (·.possibleTypes) ∧
      ∀ f ∈ out, f.name = (if cases.isMonomorphic then "make" else "make_" ++ Naming.snakeCase f.typename) ∧
        ∃ r ∈ cases.records, f.typename ∈ r.possibleTypes ∧
          (ownFields r.fields).mapM (if cases.isMonomorphic then s.property
            else s.propertyFor (cases.common.fields.map (·.responseKey)) f.typename) = .ok f.properties := by
  unfold factories at h
  split at h
  · rename_i r hmono hrecords
    obtain ⟨properties, hproperties, h⟩ := bind_eq_ok.mp h
    cases pure_eq_ok.mp h
    have hone : r.possibleTypes.length = 1 := by simpa [RecordCase.isMonomorphic, hrecords] using hmono
    obtain ⟨t, ht⟩ := List.length_eq_one_iff.mp hone
    refine ⟨by simp [hrecords, ht], fun f hf => ?_⟩
    cases List.mem_singleton.mp hf
    rw [if_pos hmono, if_pos hmono]
    exact ⟨rfl, r, by simp [hrecords], by simp [ht], hproperties⟩
  · rename_i hmany
    obtain ⟨lists, hlists, h⟩ := bind_eq_ok.mp h
    cases pure_eq_ok.mp h
    have hpoly : cases.isMonomorphic ≠ true := by
      intro hmono
      match hrecords : cases.records with
      | [] => simp [RecordCase.isMonomorphic, hrecords] at hmono
      | [r] => exact hmany r hmono hrecords
      | r :: r' :: rest => simp [RecordCase.isMonomorphic, hrecords] at hmono
    have htypes : lists.map (fun list => list.map (·.typename)) = cases.records.map (·.possibleTypes) :=
      map_of_mapM hlists fun r list hlist => (factoriesOf_spec hlist).1
    refine ⟨by rw [List.map_flatten, htypes, List.flatMap_def], fun f hf => ?_⟩
    obtain ⟨list, hlist, hf⟩ := List.mem_flatten.mp hf
    obtain ⟨r, hr, hmade⟩ := mem_of_mapM hlists hlist
    obtain ⟨htypenames, hall⟩ := factoriesOf_spec hmade
    have htype : f.typename ∈ r.possibleTypes := by
      rw [← htypenames]
      exact List.mem_map_of_mem hf
    rw [if_neg hpoly, if_neg hpoly]
    exact ⟨(hall f hf).1, r, hr, htype, (hall f hf).2⟩

end RecordScope

/-! ## The snapshots that factories make -/

end TypedOperations
