import Mathlib.Data.List.Induction
import TypedOperations.Proofs.Selection.Walk
import TypedOperations.Selection.Records

/-!
# Occurrences by response key

A response has one entry for every key, whatever number of occurrences ask for it. `grouped` says what that entry is, key by
key; collecting fields puts occurrences one after another and arrives at the same entries (`foldl_putOccurrence`).
-/

namespace TypedOperations

/-- Selection sets one after another, over the possible types of the first; nothing if there is none. -/
def concatenated : List SelectionSet → Option SelectionSet
  | [] => none
  | set :: rest => some ⟨set.possibleTypes, (set :: rest).flatMap (·.selections)⟩

namespace Occurrence

/-- The occurrences with a key. -/
def withKey (key : String) (os : List Occurrence) : List Occurrence := os.filter (·.key == key)

/-- The occurrences with other keys. -/
def withoutKey (key : String) (os : List Occurrence) : List Occurrence := os.filter (·.key != key)

/-- The sub-selections that occurrences ask for, in order. -/
def subsets (os : List Occurrence) : List SelectionSet := os.filterMap (·.field.selectionSet)

/-- One field for an occurrence and later ones with its key: the attributes of the first, the sub-selections of all in order,
conditional only if all are. -/
def mergedWith (first : Occurrence) (more : List Occurrence) : Field :=
  { first.field with
    conditional := (first :: more).all conditional
    selectionSet := concatenated (subsets (first :: more)) }

end Occurrence

/-- Occurrences by response key, in the order in which keys occur first. -/
def grouped : List Occurrence → Entries Field
  | [] => []
  | o :: rest => (o.key, o.mergedWith (Occurrence.withKey o.key rest)) :: grouped (Occurrence.withoutKey o.key rest)
termination_by os => os.length
decreasing_by exact Nat.lt_succ_of_le (List.length_filter_le _ _)

/-- The fields so far with one more occurrence, within a set that is `conditional` or not. -/
def putOccurrence (conditional : Bool) (fields : Entries Field) (o : Occurrence) : Entries Field :=
  putField fields o.field (conditional || !o.guards.isEmpty)

/-! ## One more occurrence -/

/-- One more set joins those before it. -/
theorem concatenated_snoc (sets : List SelectionSet) (set : SelectionSet) :
    concatenated (sets ++ [set]) = joinSets (concatenated sets) (some set) := by
  cases sets with
  | nil => simp [concatenated, joinSets]
  | cons first rest => simp [concatenated, joinSets]

/-- The sub-selections of one more occurrence join those before them. -/
theorem concatenated_subsets_snoc (os : List Occurrence) (o : Occurrence) :
    concatenated (Occurrence.subsets (os ++ [o])) =
      joinSets (concatenated (Occurrence.subsets os)) o.field.selectionSet := by
  cases hs : o.field.selectionSet with
  | none =>
    have hsub : Occurrence.subsets (os ++ [o]) = Occurrence.subsets os := by simp [Occurrence.subsets, hs]
    rw [hsub]
    cases concatenated (Occurrence.subsets os) <;> rfl
  | some set =>
    have hsub : Occurrence.subsets (os ++ [o]) = Occurrence.subsets os ++ [set] := by simp [Occurrence.subsets, hs]
    rw [hsub, concatenated_snoc]

/-- The key of a group is the response key of its field. -/
theorem mergedWith_responseKey (o : Occurrence) (more : List Occurrence) : (o.mergedWith more).responseKey = o.key := rfl

/-- One more occurrence with the key of a group joins it. -/
theorem mergedWith_snoc (first : Occurrence) (more : List Occurrence) (o : Occurrence) :
    first.mergedWith (more ++ [o]) =
      { first.mergedWith more with
        conditional := (first.mergedWith more).conditional && o.conditional
        selectionSet := joinSets (first.mergedWith more).selectionSet o.field.selectionSet } := by
  have hc := concatenated_subsets_snoc (first :: more) o
  simp only [Occurrence.mergedWith, ← List.cons_append, hc, List.all_append, List.all_cons, List.all_nil, Bool.and_true]

/-- An occurrence by itself gives a field with its attributes, which is as conditional as the occurrence. -/
theorem mergedWith_nil (o : Occurrence) : o.mergedWith [] = { o.field with conditional := o.conditional } := by
  have hs : concatenated (Occurrence.subsets [o]) = o.field.selectionSet := by
    cases h : o.field.selectionSet <;> simp [Occurrence.subsets, concatenated, h]
  simp [Occurrence.mergedWith, hs]

/-- Outside conditional sets, an occurrence that is put counts as conditional exactly if it is. -/
theorem conditional_eq (o : Occurrence) : ((false || !o.guards.isEmpty) || o.field.conditional) = o.conditional := rfl

/-- Putting an occurrence with another key than the first entry changes the other entries only. -/
theorem putOccurrence_cons_ne {key : String} {f : Field} {fields : Entries Field} {o : Occurrence} (h : key ≠ o.key) :
    putOccurrence false ((key, f) :: fields) o = (key, f) :: putOccurrence false fields o := by
  have hk : ¬(key == o.field.responseKey) = true := fun heq => h (beq_iff_eq.mp heq)
  simp only [putOccurrence, putField, Entries.get?, Entries.put, hk, Bool.false_eq_true, if_false]
  cases fields.get? o.field.responseKey <;> rfl

/-- Putting an occurrence with the key of the first entry merges it there. -/
theorem putOccurrence_cons_eq {key : String} {f : Field} {fields : Entries Field} {o : Occurrence} (h : key = o.key) :
    putOccurrence false ((key, f) :: fields) o =
      (key, { f with
        conditional := f.conditional && o.conditional
        selectionSet := joinSets f.selectionSet o.field.selectionSet }) :: fields := by
  have hk : (key == o.field.responseKey) = true := beq_iff_eq.mpr h
  simp only [putOccurrence, putField, Entries.get?, Entries.put, hk, if_true, conditional_eq]

/-- One more occurrence is put into the groups of those before it. -/
theorem grouped_snoc (os : List Occurrence) (o : Occurrence) : grouped (os ++ [o]) = putOccurrence false (grouped os) o := by
  induction os using grouped.induct with
  | case1 =>
    have h1 : Occurrence.withKey o.key [] = [] := rfl
    have h2 : Occurrence.withoutKey o.key [] = [] := rfl
    rw [List.nil_append, grouped, grouped, h1, h2, mergedWith_nil, grouped]
    rfl
  | case2 first rest ih =>
    rw [List.cons_append, grouped, grouped]
    by_cases h : first.key = o.key
    · have h1 : Occurrence.withKey first.key (rest ++ [o]) = Occurrence.withKey first.key rest ++ [o] := by
        simp [Occurrence.withKey, h]
      have h2 : Occurrence.withoutKey first.key (rest ++ [o]) = Occurrence.withoutKey first.key rest := by
        simp [Occurrence.withoutKey, h]
      rw [putOccurrence_cons_eq h, h1, h2, mergedWith_snoc]
    · have h1 : Occurrence.withKey first.key (rest ++ [o]) = Occurrence.withKey first.key rest := by
        simp [Occurrence.withKey, Ne.symm h]
      have h2 : Occurrence.withoutKey first.key (rest ++ [o]) = Occurrence.withoutKey first.key rest ++ [o] := by
        simp [Occurrence.withoutKey, Ne.symm h]
      rw [putOccurrence_cons_ne h, h1, h2, ih]

/-- Occurrences that are put one after another are grouped. -/
theorem foldl_putOccurrence (os : List Occurrence) : os.foldl (putOccurrence false) [] = grouped os := by
  induction os using List.reverseRecOn with
  | nil => rw [grouped, List.foldl_nil]
  | append_singleton os o ih => rw [List.foldl_append, ih, List.foldl_cons, List.foldl_nil, grouped_snoc]

/-! ## What the groups hold -/

/-- The occurrences with a key have it. -/
theorem Occurrence.mem_withKey {key : String} {os : List Occurrence} {o : Occurrence} :
    o ∈ withKey key os ↔ o ∈ os ∧ o.key = key := by
  simp [withKey]

/-- Without the occurrences of one key, those with another key stay. -/
theorem Occurrence.withKey_withoutKey {key other : String} (h : key ≠ other) (os : List Occurrence) :
    withKey key (withoutKey other os) = withKey key os := by
  rw [withKey, withKey, withoutKey, List.filter_filter]
  apply List.filter_congr
  intro p _
  by_cases hp : p.key = key <;> simp [hp, h]

/-- A group is made of the occurrences with its key. -/
theorem mem_grouped {os : List Occurrence} {e : String × Field} (h : e ∈ grouped os) :
    ∃ first more, Occurrence.withKey e.1 os = first :: more ∧ e.2 = first.mergedWith more := by
  induction os using grouped.induct with
  | case1 => simp [grouped] at h
  | case2 o rest ih =>
    rw [grouped] at h
    rcases List.mem_cons.mp h with rfl | h
    · exact ⟨o, Occurrence.withKey o.key rest, by simp [Occurrence.withKey], rfl⟩
    · obtain ⟨first, more, hf, he⟩ := ih h
      have hmem : first ∈ Occurrence.withKey e.1 (Occurrence.withoutKey o.key rest) := by simp [hf]
      have hne : e.1 ≠ o.key := by
        obtain ⟨hin, hkey⟩ := Occurrence.mem_withKey.mp hmem
        rw [← hkey]
        simpa [Occurrence.withoutKey] using (List.mem_filter.mp hin).2
      refine ⟨first, more, ?_, he⟩
      rw [Occurrence.withKey_withoutKey hne] at hf
      rw [← hf]
      simp [Occurrence.withKey, Ne.symm hne]

/-- The names of the groups are the keys of the occurrences. -/
theorem mem_grouped_names {os : List Occurrence} {key : String} :
    key ∈ (grouped os).names ↔ ∃ o ∈ os, o.key = key := by
  induction os using grouped.induct with
  | case1 => simp [grouped, Entries.names]
  | case2 o rest ih =>
    rw [grouped, Entries.names, List.map_cons, List.mem_cons, ← Entries.names, ih]
    constructor
    · rintro (rfl | ⟨p, hp, rfl⟩)
      · exact ⟨o, List.mem_cons_self, rfl⟩
      · exact ⟨p, List.mem_cons_of_mem _ (List.mem_filter.mp hp).1, rfl⟩
    · rintro ⟨p, hp, rfl⟩
      by_cases hk : p.key = o.key
      · exact Or.inl hk
      · rcases List.mem_cons.mp hp with rfl | hp
        · exact absurd rfl hk
        · exact Or.inr ⟨p, List.mem_filter.mpr ⟨hp, by simpa using hk⟩, rfl⟩

/-- The name of a group is the response key of its field. -/
theorem responseKey_of_mem_grouped {os : List Occurrence} {e : String × Field} (h : e ∈ grouped os) :
    e.2.responseKey = e.1 := by
  obtain ⟨first, more, hf, hm⟩ := mem_grouped h
  have hfirst : first ∈ Occurrence.withKey e.1 os := by simp [hf]
  rw [hm, mergedWith_responseKey, (Occurrence.mem_withKey.mp hfirst).2]

/-- The field of a group is made of the occurrences with its key. -/
theorem mergedWith_of_mem_grouped {os : List Occurrence} {f : Field} (h : f ∈ (grouped os).values) :
    ∃ first more, Occurrence.withKey f.responseKey os = first :: more ∧ f = first.mergedWith more := by
  obtain ⟨e, he, rfl⟩ := List.mem_map.mp h
  rw [responseKey_of_mem_grouped he]
  exact mem_grouped he

/-- The response keys of the groups are their names. -/
theorem grouped_responseKeys (os : List Occurrence) : (grouped os).values.map (·.responseKey) = (grouped os).names := by
  rw [Entries.values, Entries.names, List.map_map]
  exact List.map_congr_left fun e he => responseKey_of_mem_grouped he

/-- No two groups have the same key. -/
theorem grouped_names_nodup (os : List Occurrence) : (grouped os).names.Nodup := by
  induction os using grouped.induct with
  | case1 => simp [grouped, Entries.names]
  | case2 o rest ih =>
    have hnew : o.key ∉ (grouped (Occurrence.withoutKey o.key rest)).names := by
      rw [mem_grouped_names]
      rintro ⟨other, hother, hkey⟩
      simp [Occurrence.withoutKey, hkey] at hother
    rw [grouped]
    exact List.nodup_cons.mpr ⟨hnew, ih⟩

/-- The groups leave a key unconditional exactly if an occurrence with the key is not conditional. -/
theorem unconditional_grouped {os : List Occurrence} {key : String} :
    (∃ f ∈ (grouped os).values, f.conditional = false ∧ f.responseKey = key) ↔
      ∃ o ∈ os, o.conditional = false ∧ o.key = key := by
  constructor
  · rintro ⟨f, hf, hc, rfl⟩
    obtain ⟨e, he, rfl⟩ := List.mem_map.mp hf
    obtain ⟨first, more, hw, hm⟩ := mem_grouped he
    rw [hm, Occurrence.mergedWith] at hc
    simp only [List.all_eq_false] at hc
    obtain ⟨o, ho, hoc⟩ := hc
    rw [← hw] at ho
    obtain ⟨hin, hkey⟩ := Occurrence.mem_withKey.mp ho
    exact ⟨o, hin, by simpa using hoc, by rw [responseKey_of_mem_grouped he, hkey]⟩
  · rintro ⟨o, ho, hc, rfl⟩
    obtain ⟨e, he, hname⟩ := List.mem_map.mp (mem_grouped_names.mpr ⟨o, ho, rfl⟩)
    obtain ⟨first, more, hw, hm⟩ := mem_grouped he
    have hmem : o ∈ first :: more := by
      rw [← hw, hname]
      exact Occurrence.mem_withKey.mpr ⟨ho, rfl⟩
    refine ⟨e.2, List.mem_map.mpr ⟨e, he, rfl⟩, ?_, by rw [responseKey_of_mem_grouped he, hname]⟩
    rw [hm, Occurrence.mergedWith]
    exact List.all_eq_false.mpr ⟨o, hmem, by simp [hc]⟩

end TypedOperations
