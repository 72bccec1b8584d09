import TypedOperations.Proofs.Outcome
import TypedOperations.Snapshot.Store

/-!
# Objects on a heap

What the operations on a heap do to the objects that are there already. New values only add objects (`alloc_adds`), a write
changes the one object it is made to, and a map stays a map. The keys of a map are distinct, and stay so.
-/

namespace TypedOperations

/-! ## Maps with distinct keys -/

namespace Keyed

variable {α : Type}

/-- No two keys are one. -/
def Distinct (es : Keyed α) : Prop :=
  es.Pairwise fun e f => e.1.agrees f.1 = false

/-- A key that is not there joins at the end. -/
theorem put_of_new {es : Keyed α} {key : Key} {a : α} (h : ∀ e ∈ es, e.1.agrees key = false) :
    es.put key a = es ++ [(key, a)] := by
  induction es with
  | nil => rfl
  | cons e rest ih =>
    obtain ⟨k, b⟩ := e
    have hk : k.agrees key = false := h (k, b) List.mem_cons_self
    rw [put, hk, ih fun e he => h e (List.mem_cons_of_mem _ he)]
    rfl

/-- A key that is there keeps its place, and the keys are as before; a new one comes after all others. -/
theorem map_put (es : Keyed α) (key : Key) (a : α) :
    (es.put key a).map (·.1) = es.map (·.1) ∨
      (∀ e ∈ es, e.1.agrees key = false) ∧ (es.put key a).map (·.1) = es.map (·.1) ++ [key] := by
  induction es with
  | nil => exact Or.inr ⟨by simp, rfl⟩
  | cons e rest ih =>
    obtain ⟨k, b⟩ := e
    cases hk : k.agrees key with
    | true => exact Or.inl (by simp [put, hk])
    | false =>
      rcases ih with ih | ⟨hnew, ih⟩
      · exact Or.inl (by simp [put, hk, ih])
      · refine Or.inr ⟨?_, by simp [put, hk, ih]⟩
        intro e he
        rcases List.mem_cons.mp he with rfl | he
        · exact hk
        · exact hnew e he

/-- Distinctness is about the keys only. -/
theorem distinct_iff {es : Keyed α} : es.Distinct ↔ (es.map (·.1)).Pairwise fun k l => k.agrees l = false := by
  rw [Distinct, List.pairwise_map]

/-- The keys stay distinct when one is put. -/
theorem Distinct.put {es : Keyed α} (h : es.Distinct) (key : Key) (a : α) : (es.put key a).Distinct := by
  rw [distinct_iff] at h ⊢
  rcases map_put es key a with hkeys | ⟨hnew, hkeys⟩
  · rw [hkeys]
    exact h
  · rw [hkeys, List.pairwise_append]
    refine ⟨h, List.pairwise_singleton _ _, ?_⟩
    intro k hk l hl
    obtain ⟨e, he, rfl⟩ := List.mem_map.mp hk
    rw [List.mem_singleton.mp hl]
    exact hnew e he

end Keyed

/-- Keys with different texts are two. -/
theorem Key.agrees_of_texts {k l : Key} {s t : String} (hk : k.value = .string s) (hl : l.value = .string t) (hne : s ≠ t) :
    k.agrees l = false := by
  obtain ⟨_, m⟩ := k
  obtain ⟨_, n⟩ := l
  cases hk
  cases hl
  simp [Key.agrees, Scalar.equals, Scalar.asInt?, Scalar.asText?, hne]

mutual

/-- Every map in a value has distinct keys. -/
def Value.Distinct : Value → Prop
  | .list items => Value.AllDistinct items
  | .keyed entries => (entries.map (·.1)).Nodup ∧ Value.EntriesDistinct entries
  | .input _ entries => (entries.map (·.1)).Nodup ∧ Value.EntriesDistinct entries
  | .view _ snapshot => snapshot.Distinct
  | _ => True

/-- Every map in the values has distinct keys. -/
def Value.AllDistinct : List Value → Prop
  | [] => True
  | v :: rest => v.Distinct ∧ Value.AllDistinct rest

/-- Every map in the values of entries has distinct keys. -/
def Value.EntriesDistinct : List (String × Value) → Prop
  | [] => True
  | (_, v) :: rest => v.Distinct ∧ Value.EntriesDistinct rest

end

/-- The object is no map, or a map with distinct keys. -/
def Cell.Distinct : Cell → Prop
  | .keyed entries => entries.Distinct
  | _ => True

namespace Heap

variable {h h' h'' : Heap} {a b : Nat} {c : Cell}

/-! ## Reading what was written -/

/-- An object that is replaced is there. -/
theorem get?_set_self {old : Cell} (hold : h.get? a = some old) : (h.set a c).get? a = some c := by
  have hlt : a < h.cells.length := (List.getElem?_eq_some_iff.mp hold).1
  simp [get?, set, hlt]

/-- Every other object is as before. -/
theorem get?_set_ne (hne : b ≠ a) : (h.set a c).get? b = h.get? b := by
  simp [get?, set, Ne.symm hne]

/-- Replacing an object by itself changes nothing. -/
theorem set_self (hc : h.get? a = some c) : h.set a c = h := by
  obtain ⟨hlt, hget⟩ := List.getElem?_eq_some_iff.mp hc
  rw [set, ← hget, List.set_getElem_self]

/-- Of two replacements the later one stays. -/
theorem set_set (h : Heap) (a : Nat) (c d : Cell) : (h.set a c).set a d = h.set a d := by
  simp [set]

/-! ## New objects -/

/-- The second heap has the objects of the first, unchanged, and others after them. -/
def Extends (h h' : Heap) : Prop :=
  h.cells <+: h'.cells

theorem Extends.refl (h : Heap) : h.Extends h :=
  List.prefix_refl _

theorem Extends.get? (hext : h.Extends h') (hc : h.get? a = some c) : h'.get? a = some c := by
  obtain ⟨added, hadded⟩ := hext
  rw [Heap.get?, ← hadded, List.getElem?_append_left (List.getElem?_eq_some_iff.mp hc).1]
  exact hc

/-- The second heap has objects after those of the first, all of which have distinct keys if a condition holds. -/
def Adds (condition : Prop) (h h' : Heap) : Prop :=
  ∃ added, h'.cells = h.cells ++ added ∧ (condition → ∀ c ∈ added, c.Distinct)

theorem Adds.extends {p : Prop} (hadds : Adds p h h') : h.Extends h' := by
  obtain ⟨added, hcells, -⟩ := hadds
  exact ⟨added, hcells.symm⟩

/-- A heap with the same objects adds none. -/
theorem adds_of_cells {p : Prop} (hcells : h'.cells = h.cells) : Adds p h h' :=
  ⟨[], by simp [hcells], by simp⟩

theorem Adds.refl (p : Prop) (h : Heap) : Adds p h h :=
  adds_of_cells rfl

/-- One object is added. -/
theorem adds_addObject {p : Prop} (h : Heap) (hc : p → c.Distinct) : Adds p h (h.addObject c).1 := by
  refine ⟨[c], rfl, ?_⟩
  intro hp d hd
  rw [List.mem_singleton.mp hd]
  exact hc hp

theorem Adds.trans {p q r : Prop} (h₁ : Adds p h h') (h₂ : Adds q h' h'') (hp : r → p) (hq : r → q) : Adds r h h'' := by
  obtain ⟨first, hfirst, hdistinct⟩ := h₁
  obtain ⟨second, hsecond, hdistinct'⟩ := h₂
  refine ⟨first ++ second, by rw [hsecond, hfirst, List.append_assoc], ?_⟩
  intro hr c hc
  rcases List.mem_append.mp hc with hc | hc
  · exact hdistinct (hp hr) c hc
  · exact hdistinct' (hq hr) c hc

theorem cells_addScalar (h : Heap) (v : Scalar) : (h.addScalar v).1.cells = h.cells := by
  rw [addScalar]
  split <;> rfl

theorem cells_addKey (h : Heap) (v : Scalar) : (h.addKey v).1.cells = h.cells := by
  rw [addKey]
  split <;> rfl

/-- A key is made for the value it is given. -/
theorem value_addKey (h : Heap) (v : Scalar) : (h.addKey v).2.value = v := by
  rw [addKey]
  split <;> rfl

/-- The keys that are made for entries have their texts. -/
theorem keys_allocEntries (h : Heap) (entries : List (String × Value)) :
    (h.allocEntries entries).2.map (·.1.value) = entries.map (Scalar.string ·.1) := by
  induction entries generalizing h with
  | nil => rfl
  | cons e rest ih =>
    obtain ⟨k, v⟩ := e
    simp only [allocEntries, List.map_cons, value_addKey, ih]

/-- The keys that are made for distinct texts are distinct. -/
theorem distinct_allocEntries (h : Heap) {entries : List (String × Value)} (hnodup : (entries.map (·.1)).Nodup) :
    (h.allocEntries entries).2.Distinct := by
  induction entries generalizing h with
  | nil => exact List.Pairwise.nil
  | cons e rest ih =>
    obtain ⟨k, v⟩ := e
    rw [List.map_cons, List.nodup_cons] at hnodup
    refine List.pairwise_cons.mpr ⟨?_, ih _ hnodup.2⟩
    intro e he
    -- the key of a later entry has the text of a later entry
    have hvalue : e.1.value ∈ rest.map (Scalar.string ·.1) := by
      rw [← keys_allocEntries]
      exact List.mem_map_of_mem he
    obtain ⟨later, hlater, htext⟩ := List.mem_map.mp hvalue
    refine Key.agrees_of_texts (value_addKey h (.string k)) htext.symm ?_
    rintro rfl
    exact hnodup.1 (List.mem_map.mpr ⟨later, hlater, rfl⟩)

mutual

/-- A value only adds objects, with distinct keys if the value has them. -/
theorem alloc_adds (h : Heap) : ∀ v : Value, Adds v.Distinct h (h.alloc v).1
  | .null | .bool _ | .int _ | .float _ | .string _ | .var _ | .boundVar _ | .member _ _ _ | .bytes _ =>
    adds_of_cells (cells_addScalar h _)
  | .list items => (allocAll_adds h items).trans (adds_addObject _ fun _ => trivial) id id
  | .keyed entries =>
    (allocEntries_adds h entries).trans (adds_addObject _ (distinct_allocEntries h)) And.right And.left
  | .input _ entries =>
    ((allocEntries_adds h entries).trans (adds_addObject _ (distinct_allocEntries h)) And.right And.left).trans
      (adds_addObject _ fun _ => trivial) id id
  | .view _ snapshot => (alloc_adds h snapshot).trans (adds_addObject _ fun _ => trivial) id id

/-- Values only add objects. -/
theorem allocAll_adds (h : Heap) : ∀ vs : List Value, Adds (Value.AllDistinct vs) h (h.allocAll vs).1
  | [] => adds_of_cells rfl
  | v :: rest => (alloc_adds h v).trans (allocAll_adds _ rest) And.left And.right

/-- The values of entries only add objects. -/
theorem allocEntries_adds (h : Heap) :
    ∀ es : List (String × Value), Adds (Value.EntriesDistinct es) h (h.allocEntries es).1
  | [] => adds_of_cells rfl
  | (_, v) :: rest =>
    ((adds_of_cells (cells_addKey h _)).trans (alloc_adds _ v) id id).trans (allocEntries_adds _ rest) And.left And.right

end

/-- A value leaves all objects as they are. -/
theorem extends_alloc (h : Heap) (v : Value) : h.Extends (h.alloc v).1 :=
  (alloc_adds h v).extends

/-! ## Changed objects -/

/-- Every map has distinct keys. -/
def Distinct (h : Heap) : Prop :=
  ∀ c ∈ h.cells, c.Distinct

theorem Distinct.keyed {es : Keyed Item} (hd : h.Distinct) (hget : h.get? a = some (.keyed es)) : es.Distinct :=
  hd _ (List.mem_of_getElem? hget)

theorem Distinct.adds {p : Prop} (hd : h.Distinct) (hadds : Adds p h h') (hp : p) : h'.Distinct := by
  obtain ⟨added, hcells, hadded⟩ := hadds
  intro c hc
  rw [hcells, List.mem_append] at hc
  rcases hc with hc | hc
  · exact hd c hc
  · exact hadded hp c hc

/-- What writing and replacing do to the objects of a heap: they change one of them at most, which is a map or a list and stays
one, and they leave keys distinct. -/
inductive Changes (h h' : Heap) : Prop
  | none (hcells : h'.cells = h.cells)
  | keyed {a : Nat} {old new : Keyed Item} (hold : h.get? a = some (.keyed old)) (hnew : h.Distinct → new.Distinct)
      (hcells : h'.cells = h.cells.set a (.keyed new))
  | list {a : Nat} {old new : List Item} (hold : h.get? a = some (.list old))
      (hcells : h'.cells = h.cells.set a (.list new))

/-- A map stays a map. -/
theorem Changes.get?_keyed {es : Keyed Item} (hch : h.Changes h') (hget : h.get? a = some (.keyed es)) :
    ∃ es', h'.get? a = some (.keyed es') := by
  have hlt : a < h.cells.length := (List.getElem?_eq_some_iff.mp hget).1
  cases hch with
  | none hcells => exact ⟨es, by rw [Heap.get?, hcells]; exact hget⟩
  | keyed hold hnew hcells =>
    rename_i b old new
    by_cases hb : b = a
    · subst hb
      exact ⟨new, by rw [Heap.get?, hcells, List.getElem?_set_self hlt]⟩
    · exact ⟨es, by rw [Heap.get?, hcells, List.getElem?_set_ne hb]; exact hget⟩
  | list hold hcells =>
    rename_i b old new
    have hb : b ≠ a := by
      rintro rfl
      rw [hold] at hget
      cases hget
    exact ⟨es, by rw [Heap.get?, hcells, List.getElem?_set_ne hb]; exact hget⟩

theorem Changes.distinct (hch : h.Changes h') (hd : h.Distinct) : h'.Distinct := by
  intro c hc
  cases hch with
  | none hcells =>
    rw [hcells] at hc
    exact hd c hc
  | keyed hold hnew hcells =>
    rw [hcells] at hc
    rcases List.mem_or_eq_of_mem_set hc with hc | rfl
    · exact hd c hc
    · exact hnew hd
  | list hold hcells =>
    rw [hcells] at hc
    rcases List.mem_or_eq_of_mem_set hc with hc | rfl
    · exact hd c hc
    · trivial

/-- A write changes the map or list it is made to. -/
theorem write_changes {place value : Item} {key : Scalar} (hok : h.write place key value = .ok h') : h.Changes h' := by
  unfold write at hok
  split at hok
  · rename_i address
    split at hok
    · rename_i entries hget
      have hcells := cells_addKey h key
      generalize h.addKey key = made at hok hcells
      obtain ⟨h₁, k⟩ := made
      cases hok
      exact .keyed hget (fun hd => (hd.keyed hget).put k value) (congrArg (List.set · address _) hcells)
    · rename_i items hget
      cases hindex : indexOf items.length key with
      | error e =>
        rw [hindex] at hok
        cases hok
      | ok n =>
        rw [hindex] at hok
        cases hok
        exact .list hget rfl
    · cases hok
  · cases hok

/-! ## Replacing contents -/

theorem cells_entryOfText {index : Nat} {s : String} {r : Heap × Key × Item} (hok : h.entryOfText index s = .ok r) :
    r.1.cells = h.cells := by
  unfold entryOfText at hok
  split at hok
  · rename_i a b _
    have hkey := cells_addKey h (.string (String.singleton a))
    generalize h.addKey (.string (String.singleton a)) = made at hok hkey
    obtain ⟨h₁, k⟩ := made
    have hitem := cells_addScalar h₁ (.string (String.singleton b))
    generalize hmade : h₁.addScalar (.string (String.singleton b)) = made at hitem
    obtain ⟨h₂, i⟩ := made
    simp only [hmade] at hok
    cases hok
    exact hitem.trans hkey
  · cases hok

theorem cells_entryOfBytes {index : Nat} {s : String} {r : Heap × Key × Item} (hok : h.entryOfBytes index s = .ok r) :
    r.1.cells = h.cells := by
  unfold entryOfBytes at hok
  split at hok
  · rw [← Except.ok.inj hok]
  · cases hok

/-- Making an entry of a place adds no object. -/
theorem cells_entryOf {index : Nat} {i : Item} {r : Heap × Key × Item} (hok : h.entryOf index i = .ok r) :
    r.1.cells = h.cells := by
  unfold entryOf at hok
  split at hok
  · exact cells_entryOfText hok
  · exact cells_entryOfText hok
  · exact cells_entryOfBytes hok
  · cases hok
  · split at hok
    · obtain ⟨k, -, hpair⟩ := bind_eq_ok.mp hok
      rw [← pure_eq_ok.mp hpair]
    · cases hok
    · rw [← Except.ok.inj hok]
    · cases hok
    · cases hok

/-- Contents made one after another keep their keys distinct, and making them adds no object. -/
theorem entriesFrom_ok {index : Nat} {found : Keyed Item} {items : List Item} {r : Heap × Keyed Item}
    (hok : h.entriesFrom index found items = .ok r) : r.1.cells = h.cells ∧ (found.Distinct → r.2.Distinct) := by
  induction items generalizing h index found with
  | nil =>
    rw [← Except.ok.inj hok]
    exact ⟨rfl, id⟩
  | cons i rest ih =>
    obtain ⟨⟨h₁, k, v⟩, hentry, hrest⟩ := bind_eq_ok.mp hok
    obtain ⟨hcells, hdistinct⟩ := ih hrest
    exact ⟨hcells.trans (cells_entryOf hentry), fun hd => hdistinct (hd.put k v)⟩

theorem noEntries_ok {isEmpty : Bool} {e : StoreError} {r : Heap × Keyed Item} (hok : h.noEntries isEmpty e = .ok r) :
    r.1.cells = h.cells ∧ r.2.Distinct := by
  unfold noEntries at hok
  split at hok
  · rw [← Except.ok.inj hok]
    exact ⟨rfl, List.Pairwise.nil⟩
  · cases hok

/-- The contents of a place have distinct keys, and taking them adds no object. -/
theorem entriesAt_ok {source : Item} {r : Heap × Keyed Item} (hok : h.entriesAt source = .ok r) :
    r.1.cells = h.cells ∧ (h.Distinct → r.2.Distinct) := by
  unfold entriesAt at hok
  split at hok
  · split at hok
    · rename_i hget
      rw [← Except.ok.inj hok]
      exact ⟨rfl, fun hd => hd.keyed hget⟩
    · obtain ⟨hcells, hdistinct⟩ := entriesFrom_ok hok
      exact ⟨hcells, fun _ => hdistinct List.Pairwise.nil⟩
    · cases hok
  · exact (noEntries_ok hok).imp_right fun hd _ => hd
  · exact (noEntries_ok hok).imp_right fun hd _ => hd
  · exact (noEntries_ok hok).imp_right fun hd _ => hd
  · cases hok

/-- A replacement changes the map or list whose contents it replaces. -/
theorem replace_changes (h : Heap) (place source : Item) : h.Changes (h.replace place source).1 := by
  unfold replace
  split
  · exact .none rfl
  · split
    · rename_i h₁ contents hok
      obtain ⟨hcells, hdistinct⟩ := entriesAt_ok hok
      have hget : ∀ address, h₁.get? address = h.get? address := fun address => by rw [get?, hcells, get?]
      unfold replaceAt
      split
      · split
        · rename_i hold
          exact .keyed ((hget _).symm.trans hold) hdistinct (by rw [set, hcells])
        · rename_i hold
          exact .list ((hget _).symm.trans hold) (by rw [set, hcells])
        · exact .none hcells
      · exact .none hcells
    · exact .none rfl

/-- The contents of one map become those of another, whether the maps are two or one. -/
theorem replace_keyed {old new : Keyed Item} (hold : h.get? a = some (.keyed old)) (hnew : h.get? b = some (.keyed new)) :
    h.replace (.object a) (.object b) = (h.set a (.keyed new), none) := by
  unfold replace
  split
  · rename_i hsame
    cases eq_of_beq hsame
    rw [set_self hnew]
  · simp only [entriesAt, hnew, replaceAt, hold]

/-- The heap with an entry put into the map at an address. -/
def putAt (h : Heap) (address : Nat) (key : Key) (value : Item) : Heap :=
  match h.get? address with
  | some (.keyed entries) => h.set address (.keyed (entries.put key value))
  | _ => h

/-- The heap with the map at an address emptied and then filled, entry by entry. -/
def refill (h : Heap) (address : Nat) (entries : Keyed Item) : Heap :=
  entries.foldl (fun h e => h.putAt address e.1 e.2) (h.set address (.keyed []))

/-- Entries with distinct keys that are put one after another come to stand in their order. -/
theorem refill_eq {old new : Keyed Item} (hold : h.get? a = some (.keyed old)) (hnew : new.Distinct) :
    h.refill a new = h.set a (.keyed new) := by
  -- the entries put so far are followed by those that are left
  have hfrom : ∀ rest done : Keyed Item, Keyed.Distinct (done ++ rest) →
      rest.foldl (fun h e => h.putAt a e.1 e.2) (h.set a (.keyed done)) = h.set a (.keyed (done ++ rest)) := by
    intro rest
    induction rest with
    | nil => simp
    | cons e rest ih =>
      obtain ⟨k, i⟩ := e
      intro done hdistinct
      have hlater : ∀ e ∈ done, e.1.agrees k = false := fun e he =>
        (List.pairwise_append.mp hdistinct).2.2 e he (k, i) List.mem_cons_self
      have hput : (h.set a (.keyed done)).putAt a k i = h.set a (.keyed (done ++ [(k, i)])) := by
        simp only [putAt, get?_set_self hold, Keyed.put_of_new hlater, set_set]
      rw [List.foldl_cons, hput, ih (done ++ [(k, i)]) (by simpa using hdistinct), List.append_assoc]
      rfl
  exact hfrom new [] hnew

end Heap

end TypedOperations
