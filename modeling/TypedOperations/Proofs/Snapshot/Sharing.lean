import TypedOperations.Proofs.Entries
import TypedOperations.Proofs.Snapshot.Heap

/-!
# Views that share a snapshot

What a run of a store does to its views and to the maps they are on. A step leaves every view where it is unless it makes it
anew, and changes one map or list at most (`step_cases`); so a whole run moves no view and leaves maps maps. A replacement of
contents changes nothing but the map of its view, which then has the entries that the source had, and the views on that map
all see them. It makes no difference whether the source is that map, is held by it or holds it.
-/

namespace TypedOperations

/-! ## What a step can do -/

/-- The view that a step makes. -/
def StoreStep.makes : StoreStep → Option String
  | .create id _ _ _ => some id
  | .share id _ _ _ => some id
  | .child id _ _ _ _ => some id
  | _ => none

/-- The maps in the new values of a step have distinct keys. -/
def StoreStep.Distinct : StoreStep → Prop
  | .create _ _ _ value => value.Distinct
  | .write _ _ value => value.Distinct
  | .replace _ value => value.Distinct
  | _ => True

namespace Store

variable {s s' : Store} {x : StoreStep} {xs : List StoreStep} {name : String} {a : Nat}

theorem view_eq_ok {v : View} : s.view name = .ok v ↔ s.views.get? name = some v := by
  unfold view
  cases s.views.get? name <;> simp

theorem step_of_ok {r : Store × Option StoreError} (hok : s.take x = .ok r) : s.step x = r := by
  rw [step, hok]

theorem step_of_error {e : StoreError} (herr : s.take x = .error e) : s.step x = (s, some e) := by
  rw [step, herr]

/-- A step adds the objects of its new value, then changes one object at most, and puts the view that it makes, if any. -/
theorem step_cases (s : Store) (x : StoreStep) :
    (∃ h, Heap.Adds x.Distinct s.heap h ∧ h.Changes (s.step x).1.heap) ∧
      ((s.step x).1.views = s.views ∨ ∃ id v, x.makes = some id ∧ (s.step x).1.views = s.views.put id v) := by
  cases htake : s.take x with
  | error e =>
    rw [step_of_error htake]
    exact ⟨⟨s.heap, .refl _ _, .none rfl⟩, Or.inl rfl⟩
  | ok r =>
    rw [step_of_ok htake]
    cases x with
    | create id className kind value =>
      cases htake
      exact ⟨⟨_, Heap.alloc_adds _ _, .none rfl⟩, Or.inr ⟨_, _, rfl, rfl⟩⟩
    | share id className kind of =>
      obtain ⟨v, -, htake⟩ := bind_eq_ok.mp htake
      cases htake
      exact ⟨⟨_, .refl _ _, .none rfl⟩, Or.inr ⟨_, _, rfl, rfl⟩⟩
    | child id className kind of key =>
      obtain ⟨v, -, htake⟩ := bind_eq_ok.mp htake
      obtain ⟨item, -, htake⟩ := bind_eq_ok.mp htake
      cases htake
      exact ⟨⟨_, .refl _ _, .none rfl⟩, Or.inr ⟨_, _, rfl, rfl⟩⟩
    | write of key value =>
      obtain ⟨v, -, htake⟩ := bind_eq_ok.mp htake
      obtain ⟨heap, hwrite, htake⟩ := bind_eq_ok.mp htake
      cases htake
      exact ⟨⟨_, Heap.alloc_adds _ _, Heap.write_changes hwrite⟩, Or.inl rfl⟩
    | writeView of key source =>
      obtain ⟨w, -, htake⟩ := bind_eq_ok.mp htake
      obtain ⟨v, -, htake⟩ := bind_eq_ok.mp htake
      obtain ⟨heap, hwrite, htake⟩ := bind_eq_ok.mp htake
      cases htake
      exact ⟨⟨_, .refl _ _, Heap.write_changes hwrite⟩, Or.inl rfl⟩
    | replace of value =>
      obtain ⟨v, -, htake⟩ := bind_eq_ok.mp htake
      cases htake
      exact ⟨⟨_, Heap.alloc_adds _ _, Heap.replace_changes _ _ _⟩, Or.inl rfl⟩
    | replaceFrom of source =>
      obtain ⟨v, -, htake⟩ := bind_eq_ok.mp htake
      obtain ⟨w, -, htake⟩ := bind_eq_ok.mp htake
      cases htake
      exact ⟨⟨_, .refl _ _, Heap.replace_changes _ _ _⟩, Or.inl rfl⟩

/-- A view that a step does not make stays on the place it is on. -/
theorem view_step (s : Store) (hmakes : x.makes ≠ some name) : (s.step x).1.views.get? name = s.views.get? name := by
  rcases (step_cases s x).2 with hviews | ⟨id, v, hid, hviews⟩
  · rw [hviews]
  · rw [hviews, Entries.get?_put, if_neg]
    rintro rfl
    exact hmakes hid

/-- A map stays a map in every step. -/
theorem keyed_step {es : Keyed Item} (x : StoreStep) (hget : s.heap.get? a = some (.keyed es)) :
    ∃ es', (s.step x).1.heap.get? a = some (.keyed es') := by
  obtain ⟨h, hadds, hchanges⟩ := (step_cases s x).1
  exact hchanges.get?_keyed (hadds.extends.get? hget)

theorem distinct_step (hd : s.heap.Distinct) (hx : x.Distinct) : (s.step x).1.heap.Distinct := by
  obtain ⟨h, hadds, hchanges⟩ := (step_cases s x).1
  exact hchanges.distinct (hd.adds hadds hx)

/-! ## What a run can do -/

theorem run_snoc (s : Store) (xs : List StoreStep) (x : StoreStep) : s.run (xs ++ [x]) = ((s.run xs).step x).1 := by
  simp [run]

/-- A view that no step of a run makes stays on the place it is on. -/
theorem view_run (s : Store) (hmakes : ∀ x ∈ xs, x.makes ≠ some name) :
    (s.run xs).views.get? name = s.views.get? name := by
  induction xs generalizing s with
  | nil => rfl
  | cons x rest ih =>
    calc ((s.step x).1.run rest).views.get? name
        = (s.step x).1.views.get? name := ih _ fun y hy => hmakes y (List.mem_cons_of_mem _ hy)
      _ = s.views.get? name := view_step s (hmakes x List.mem_cons_self)

/-- A map stays a map in every run. -/
theorem keyed_run {es : Keyed Item} (xs : List StoreStep) (hget : s.heap.get? a = some (.keyed es)) :
    ∃ es', (s.run xs).heap.get? a = some (.keyed es') := by
  induction xs generalizing s es with
  | nil => exact ⟨es, hget⟩
  | cons x rest ih =>
    obtain ⟨es', hget'⟩ := keyed_step x hget
    exact ih hget'

theorem distinct_run (hd : s.heap.Distinct) (hxs : ∀ x ∈ xs, x.Distinct) : (s.run xs).heap.Distinct := by
  induction xs generalizing s with
  | nil => exact hd
  | cons x rest ih =>
    exact ih (distinct_step hd (hxs x List.mem_cons_self)) fun y hy => hxs y (List.mem_cons_of_mem _ hy)

/-! ## Replacing the contents of a view -/

/-- The step replaces the contents of the snapshot of a view by those in the place `source`. At that moment the objects are
those of `h`: those of the store and of the new value, where there is one. -/
inductive Calls (s : Store) : StoreStep → String → Heap → Item → Prop
  | value (id : String) (v : Value) : s.Calls (.replace id v) id (s.heap.alloc v).1 (s.heap.alloc v).2
  | view {other : String} {w : View} (id : String) (hw : s.views.get? other = some w) :
    s.Calls (.replaceFrom id other) id s.heap w.snapshot

variable {id : String} {h : Heap} {source : Item}

theorem Calls.extends (hcall : s.Calls x id h source) : s.heap.Extends h := by
  cases hcall with
  | value id v => exact Heap.extends_alloc _ _
  | view id hw => exact .refl _

theorem Calls.makes (hcall : s.Calls x id h source) : x.makes = none := by
  cases hcall <;> rfl

/-- A replacement leaves every view on the place it is on, also where it fails. -/
theorem Calls.views (hcall : s.Calls x id h source) : (s.step x).1.views = s.views := by
  rcases (step_cases s x).2 with hviews | ⟨_, _, hid, -⟩
  · exact hviews
  · rw [hcall.makes] at hid
    cases hid

theorem Calls.distinct (hcall : s.Calls x id h source) (hd : s.heap.Distinct) (hx : x.Distinct) : h.Distinct := by
  cases hcall with
  | value id v => exact hd.adds (Heap.alloc_adds _ _) hx
  | view id hw => exact hd

/-- The step of a view that is there. -/
theorem Calls.step (hcall : s.Calls x id h source) {v : View} (hv : s.views.get? id = some v) :
    s.step x = s.replace v h source := by
  cases hcall with
  | value id value => exact step_of_ok (bind_eq_ok.mpr ⟨v, view_eq_ok.mpr hv, rfl⟩)
  | view id hw =>
    exact step_of_ok (bind_eq_ok.mpr ⟨v, view_eq_ok.mpr hv, bind_eq_ok.mpr ⟨_, view_eq_ok.mpr hw, rfl⟩⟩)

/-- The entries of the map that a view is on. -/
def contents (s : Store) (name : String) : Option (Keyed Item) :=
  match s.views.get? name with
  | some ⟨_, _, .object a⟩ =>
    match s.heap.get? a with
    | some (.keyed entries) => some entries
    | _ => none
  | _ => none

theorem contents_eq {v : View} {es : Keyed Item} (hv : s.views.get? name = some v) (ha : v.snapshot = .object a)
    (hget : s.heap.get? a = some (.keyed es)) : s.contents name = some es := by
  obtain ⟨className, kind, place⟩ := v
  cases ha
  simp only [contents, hv, hget]

end Store

/-- A replacement in any run, on any heap. It leaves every view on the place it is on, and so does the rest of the run unless
it makes the view anew. Where the view is on the map at `a` and the contents are those of the map at `b`, it succeeds: the map
at `a` then has these contents, entry by entry, and every view on it sees them; every other object is as it was. That is what
emptying the map and filling it again gives, since its keys are distinct. Nothing is said of `a` and `b`: they may be one
address, and either map may hold the other. -/
theorem replacement_keeps_sharing {start s s' : Store} {before : List StoreStep} {x : StoreStep} {id : String} {h : Heap}
    {source : Item} (hs : s = start.run before) (hs' : s' = start.run (before ++ [x])) (hcall : s.Calls x id h source) :
    (s'.views = s.views ∧ ∀ after name, (∀ y ∈ after, y.makes ≠ some name) →
      (s'.run after).views.get? name = s.views.get? name) ∧
    ∀ {v : View} {a b : Nat} {old new : Keyed Item}, s.views.get? id = some v → v.snapshot = .object a →
      s.heap.get? a = some (.keyed old) → source = .object b → h.get? b = some (.keyed new) →
      (s.step x).2 = none ∧ s'.heap.get? a = some (.keyed new) ∧
      (∀ name w, s.views.get? name = some w → w.snapshot = .object a → s'.contents name = some new) ∧
      (∀ c, c ≠ a → s'.heap.get? c = h.get? c) ∧ s.heap.Extends h ∧
      (start.heap.Distinct → (∀ y ∈ before ++ [x], y.Distinct) → s'.heap = h.refill a new) ∧
      ∀ after, ∃ entries, (s'.run after).heap.get? a = some (.keyed entries) := by
  have hstep : s' = (s.step x).1 := by rw [hs', hs, Store.run_snoc]
  have hviews : s'.views = s.views := hstep ▸ hcall.views
  refine ⟨⟨hviews, fun after name hmakes => by rw [Store.view_run s' hmakes, hviews]⟩, ?_⟩
  intro v a b old new hv ha hold hsource hnew
  have hold' : h.get? a = some (.keyed old) := hcall.extends.get? hold
  have hreplace : s.step x = ({ s with heap := h.set a (.keyed new) }, none) := by
    rw [hcall.step hv, Store.replace, ha, hsource, Heap.replace_keyed hold' hnew]
  have hheap : s'.heap = h.set a (.keyed new) := by rw [hstep, hreplace]
  have hget : s'.heap.get? a = some (.keyed new) := by rw [hheap, Heap.get?_set_self hold']
  refine ⟨by rw [hreplace], hget, ?_, ?_, hcall.extends, ?_, fun after => Store.keyed_run after hget⟩
  · intro name w hw hplace
    exact Store.contents_eq (hviews ▸ hw) hplace hget
  · intro c hc
    rw [hheap, Heap.get?_set_ne hc]
  · intro hd hsteps
    have hbefore : s.heap.Distinct := hs ▸ Store.distinct_run hd fun y hy => hsteps y (List.mem_append_left _ hy)
    have hh : h.Distinct := hcall.distinct hbefore (hsteps x (List.mem_append_right _ List.mem_cons_self))
    rw [hheap, Heap.refill_eq hold' (hh.keyed hnew)]

/-- A pet and its owner, each of which holds the other, with a second view on the pet. -/
def ringSteps : List StoreStep :=
  [.create "pet" "Pet" .selectionSet (.keyed [("owner", .keyed [("name", .string "Ann")])]),
   .share "same" "Pet" .fragment "pet", .child "owner" "Owner" .selectionSet "pet" (.string "owner"),
   .writeView "owner" (.string "pet") "pet"]

/-- The pet takes the contents of its owner, whom it holds and who holds it. -/
theorem replacement_keeps_sharing_ring :
    let s := ({} : Store).run ringSteps
    let s' := ({} : Store).run (ringSteps ++ [.replaceFrom "pet" "owner"])
    let owned : Keyed Item := [(⟨.string "name", 2⟩, .scalar (.string "Ann") 3), (⟨.string "pet", 4⟩, .object 1)]
    s.Calls (.replaceFrom "pet" "owner") "pet" s.heap (.object 0) ∧ s'.views = s.views ∧ s.contents "owner" = some owned ∧
      s'.contents "pet" = some owned ∧ s'.contents "same" = some owned ∧ s'.heap.get? 0 = s.heap.get? 0 ∧
      s'.heap = s.heap.refill 1 owned := by
  intro s s' owned
  have hcall : s.Calls (.replaceFrom "pet" "owner") "pet" s.heap (.object 0) :=
    .view (w := ⟨"Owner", .selectionSet, .object 0⟩) "pet" (by decide)
  have hpet : s.views.get? "pet" = some ⟨"Pet", .selectionSet, .object 1⟩ := by decide
  have hsame : s.views.get? "same" = some ⟨"Pet", .fragment, .object 1⟩ := by decide
  have hold : s.heap.get? 1 = some (.keyed [(⟨.string "owner", 1⟩, .object 0)]) := by decide
  have hnew : s.heap.get? 0 = some (.keyed owned) := by decide
  have hdistinct : ∀ y ∈ ringSteps ++ [.replaceFrom "pet" "owner"], y.Distinct := by
    simp [ringSteps, StoreStep.Distinct, Value.Distinct, Value.EntriesDistinct]
  obtain ⟨⟨hviews, -⟩, hmaps⟩ := replacement_keeps_sharing rfl rfl hcall
  obtain ⟨-, -, hseen, hothers, -, hrefill, -⟩ := hmaps hpet rfl hold rfl hnew
  exact ⟨hcall, hviews, by decide, hseen _ _ hpet rfl, hseen _ _ hsame rfl, hothers 0 (by decide),
    hrefill (fun _ hc => nomatch hc) hdistinct⟩

end TypedOperations
