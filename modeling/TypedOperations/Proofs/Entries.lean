import Mathlib.Data.List.Induction
import Mathlib.Data.List.Nodup
import TypedOperations.Entries

/-!
# Looking up and putting entries

What `get?` and `put` do to each other, and how the names of entries grow: a name that is put is found, every other name is
looked up as before, and a new name joins at the end. Pairs that are put one after another leave every name where it came
first, with the value that it has last (`LastOfEach`).
-/

namespace TypedOperations

/-! ## Names in the order of first occurrence -/

/-- One more name is new or was there before. -/
theorem eraseDups_snoc (names : List String) (name : String) :
    (names ++ [name]).eraseDups = if name ∈ names then names.eraseDups else names.eraseDups ++ [name] := by
  rw [List.eraseDups_append]
  by_cases h : name ∈ names <;> simp [List.removeAll, List.eraseDups_cons, h]

theorem nodup_eraseDups (names : List String) : names.eraseDups.Nodup := by
  induction names using List.reverseRecOn with
  | nil => exact List.nodup_nil
  | append_singleton names name ih =>
    rw [eraseDups_snoc]
    split
    · exact ih
    · rename_i hnew
      rw [← List.concat_eq_append, List.nodup_concat]
      exact ⟨fun h => hnew (List.mem_eraseDups.mp h), ih⟩

namespace Entries

variable {α : Type}

/-- A value that is looked up is an entry. -/
theorem mem_of_get? {es : Entries α} {name : String} {a : α} (h : es.get? name = some a) : (name, a) ∈ es := by
  induction es with
  | nil => simp [get?] at h
  | cons e rest ih =>
    obtain ⟨n, b⟩ := e
    by_cases hn : n = name
    · subst hn
      simp only [get?, beq_self_eq_true, if_true, Option.some.injEq] at h
      simp [h]
    · simp only [get?, beq_iff_eq, hn, if_false] at h
      exact List.mem_cons_of_mem _ (ih h)

/-- A name that is looked up with success is a name of the entries. -/
theorem mem_names_of_get? {es : Entries α} {name : String} {a : α} (h : es.get? name = some a) : name ∈ es.names :=
  List.mem_map.mpr ⟨(name, a), mem_of_get? h, rfl⟩

/-- A name is there exactly when it is looked up with success. -/
theorem has_iff {es : Entries α} {name : String} : es.has name = true ↔ ∃ a, es.get? name = some a := by
  rw [has, Option.isSome_iff_exists]

/-- The names that are there are the names of the entries. -/
theorem has_iff_mem_names {es : Entries α} {name : String} : es.has name = true ↔ name ∈ es.names := by
  induction es with
  | nil => simp [has, get?, names]
  | cons e rest ih =>
    obtain ⟨n, b⟩ := e
    rw [has] at ih
    by_cases hn : n = name
    · simp [has, get?, names, hn]
    · simp [has, get?, names, hn, Ne.symm hn, ih]

/-- The name that was put is found, every other one as before. -/
theorem get?_put (es : Entries α) (name n : String) (a : α) :
    (es.put name a).get? n = if name = n then some a else es.get? n := by
  induction es with
  | nil => simp [put, get?]
  | cons e rest ih =>
    obtain ⟨m, b⟩ := e
    by_cases hm : m = name
    · subst hm
      by_cases hn : m = n <;> simp [put, get?, hn]
    · by_cases hn : m = n
      · subst hn
        simp [put, get?, hm, Ne.symm hm]
      · simp [put, get?, hm, hn, ih]

/-- An entry after a name was put is an old one or the new one. -/
theorem mem_put {es : Entries α} {name : String} {a : α} {e : String × α} (h : e ∈ es.put name a) :
    e ∈ es ∨ e = (name, a) := by
  induction es with
  | nil => exact Or.inr (by simpa [put] using h)
  | cons x rest ih =>
    obtain ⟨m, b⟩ := x
    by_cases hm : m = name
    · subst hm
      simp only [put, beq_self_eq_true, if_true, List.mem_cons] at h
      rcases h with h | h
      · exact Or.inr h
      · exact Or.inl (List.mem_cons_of_mem _ h)
    · simp only [put, beq_iff_eq, hm, if_false, List.mem_cons] at h
      rcases h with h | h
      · exact Or.inl (by simp [h])
      · rcases ih h with h | h
        · exact Or.inl (List.mem_cons_of_mem _ h)
        · exact Or.inr h

/-- A new name comes last. -/
theorem put_of_notMem {es : Entries α} {name : String} {a : α} (h : name ∉ es.names) : es.put name a = es ++ [(name, a)] := by
  induction es with
  | nil => rfl
  | cons e rest ih =>
    obtain ⟨n, b⟩ := e
    rw [names, List.map_cons, List.mem_cons, not_or] at h
    rw [put, if_neg (by simpa using Ne.symm h.1), ih h.2, List.cons_append]

/-- A name that is put comes last if it is new, and otherwise the names stay. -/
theorem names_put (es : Entries α) (name : String) (a : α) :
    (es.put name a).names = if name ∈ es.names then es.names else es.names ++ [name] := by
  induction es with
  | nil => rfl
  | cons e rest ih =>
    obtain ⟨n, b⟩ := e
    have hcons : ∀ es : Entries α, names ((n, b) :: es) = n :: es.names := fun _ => rfl
    rw [put]
    by_cases h : n = name
    · subst h
      simp [names]
    · rw [if_neg (by simpa using h), hcons, hcons, ih]
      by_cases hin : name ∈ names rest
      · rw [if_pos hin, if_pos (List.mem_cons_of_mem n hin)]
      · rw [if_neg hin, if_neg (by simpa [hin] using Ne.symm h), List.cons_append]

/-- Where no name comes twice, every entry is looked up with success. -/
theorem get?_of_mem {es : Entries α} (hnodup : es.names.Nodup) {e : String × α} (h : e ∈ es) : es.get? e.1 = some e.2 := by
  induction es with
  | nil => cases h
  | cons first rest ih =>
    obtain ⟨n, b⟩ := first
    obtain ⟨hnew, hrest⟩ := List.nodup_cons.mp hnodup
    rw [get?]
    rcases List.mem_cons.mp h with rfl | h
    · exact if_pos (beq_self_eq_true n)
    · have hn : n ≠ e.1 := fun hn => hnew (List.mem_map.mpr ⟨e, h, hn.symm⟩)
      rw [if_neg (by simpa using hn), ih hrest h]

/-- Where no name comes twice, the values are those that are looked up for the names. -/
theorem values_eq_map_get? {es : Entries α} (hnodup : es.names.Nodup) (default : α) :
    es.values = es.names.map fun name => (es.get? name).getD default := by
  rw [values, names, List.map_map]
  refine List.map_congr_left fun e he => ?_
  rw [Function.comp_apply, get?_of_mem hnodup he, Option.getD_some]

/-- Entries with the same names and the same values are the same. -/
theorem ext_values {es es' : Entries α} (hnames : es.names = es'.names) (hvalues : es.values = es'.values) : es = es' := by
  have hzip : ∀ es : Entries α, es = List.zip es.names es.values := by
    intro es
    rw [names, values, ← List.unzip_fst, ← List.unzip_snd, List.zip_unzip]
  rw [hzip es, hzip es', hnames, hvalues]

/-! ## Pairs one after another -/

/-- The entries have the names of the pairs, each where it comes first, with the values that they have last. -/
structure LastOfEach (pairs : List (String × α)) (es : Entries α) : Prop where
  names_eq : es.names = (pairs.map (·.1)).eraseDups
  get?_eq : ∀ name, es.get? name = get? pairs.reverse name

/-- Putting pairs one after another leaves the last value of each name. -/
theorem ofPairs_lastOfEach (pairs : List (String × α)) : LastOfEach pairs (ofPairs pairs) := by
  induction pairs using List.reverseRecOn with
  | nil => exact ⟨rfl, fun _ => rfl⟩
  | append_singleton pairs p ih =>
    have hput : ofPairs (pairs ++ [p]) = (ofPairs pairs).put p.1 p.2 := by simp [ofPairs]
    constructor
    · rw [hput, names_put, ih.names_eq, List.map_append, List.map_singleton, eraseDups_snoc]
      simp only [List.mem_eraseDups]
    · intro name
      obtain ⟨n, a⟩ := p
      rw [hput, get?_put, ih.get?_eq, List.reverse_append, List.reverse_singleton, List.singleton_append]
      simp [get?]

/-- Only one list of entries has the last values of pairs. -/
theorem LastOfEach.unique {pairs : List (String × α)} {es es' : Entries α} (default : α) (h : LastOfEach pairs es)
    (h' : LastOfEach pairs es') : es = es' := by
  have hnames : es.names = es'.names := h.names_eq.trans h'.names_eq.symm
  have hnodup : es.names.Nodup := h.names_eq ▸ nodup_eraseDups _
  refine ext_values hnames ?_
  rw [values_eq_map_get? hnodup default, values_eq_map_get? (hnames ▸ hnodup) default, hnames]
  simp only [h.get?_eq, h'.get?_eq]

end Entries

end TypedOperations
