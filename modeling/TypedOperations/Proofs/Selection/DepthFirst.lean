import TypedOperations.Proofs.Search
import TypedOperations.Proofs.Selection.Reaching

/-!
# Fragments in the order of first visit

The fragments that a selection set reaches are searched depth first. One list of visited names serves the whole search, and a
name in it is passed, also while its own fragment is still being searched: fragments may refer to themselves. What the search
returns is the order of first visit along the references of fragments (`Search.InOrder`): each name is the first one not yet
visited in the fragment that was visited last among those with such a name, and at the end there is none. So the list holds the
names that can be reached. A search keeps to the order as long as it has more steps than there are fragments left
(`enter_visits`).
-/

namespace TypedOperations

open Search (InOrder Visits unvisited)

/-! ## References -/

mutual

/-- The fragments that a selection spreads, in field sub-selections too. -/
def Selection.references : Selection → List String
  | .field ⟨_, _, _, _, _, _, none, _⟩ => []
  | .field ⟨_, _, _, _, _, _, some ⟨_, sels⟩, _⟩ => allReferences sels
  | .typeCondition _ ⟨_, sels⟩ => allReferences sels
  | .spread name => [name]
  | .guarded _ _ ⟨_, sels⟩ => allReferences sels

/-- The fragments that selections spread, in field sub-selections too, in the order in which they are written. -/
def allReferences : List Selection → List String
  | [] => []
  | x :: rest => x.references ++ allReferences rest

end

/-- The references in the fragment of a name; there are none if it is not declared. -/
def Context.references (c : Context) (name : String) : List String :=
  match c.fragments.get? name with
  | some f => allReferences f.set.selections
  | none => []

/-- One fragment spreads another, in field sub-selections too. -/
def Context.Refers (c : Context) (a b : String) : Prop :=
  b ∈ c.references a

/-- The name can be reached from the selections through the fragments that are declared. -/
def Context.Reaches (c : Context) (sels : List Selection) (name : String) : Prop :=
  ∃ first ∈ allReferences sels, Relation.ReflTransGen c.Refers first name

section
variable {c : Context} {names : List String} {name : String}

theorem Context.references_of_get? {f : Fragment} (h : c.fragments.get? name = some f) :
    c.references name = allReferences f.set.selections := by
  rw [Context.references, h]

/-! ## The search as a run over references -/

/-- Searching selections follows their references one after another. -/
theorem reachAll_eq_foldlM (enter : List String → String → Except Fault (List String)) (sels : List Selection) :
    ∀ names, Spreads.reachAll enter names sels = (allReferences sels).foldlM enter names := by
  have hcons : ∀ x rest names, Spreads.reachAll enter names (x :: rest) =
      Spreads.reach enter names x >>= fun names => Spreads.reachAll enter names rest := by
    intro x rest names
    rw [Spreads.reachAll]
    cases Spreads.reach enter names x <;> rfl
  induction sels using selections_induction with
  | nil => exact fun _ => rfl
  | field f rest ihi ih =>
    intro names
    rw [hcons, allReferences, List.foldlM_append]
    obtain ⟨_, _, _, _, _, _, sub, _⟩ := f
    cases sub with
    | none => exact ih names
    | some sub =>
      rw [Spreads.reach, ihi sub rfl, Selection.references]
      exact bind_congr ih
  | typeCondition t ts inner rest ihi ih =>
    intro names
    rw [hcons, allReferences, List.foldlM_append, Spreads.reach, ihi, Selection.references]
    exact bind_congr ih
  | spread fragment rest ih =>
    intro names
    rw [hcons, allReferences, List.foldlM_append, Spreads.reach, Selection.references, List.foldlM_cons]
    simp only [List.foldlM_nil, bind_pure]
    exact bind_congr ih
  | guarded flag inverted ts inner rest ihi ih =>
    intro names
    rw [hcons, allReferences, List.foldlM_append, Spreads.reach, ihi, Selection.references]
    exact bind_congr ih

/-- A visit to a declared fragment leaves one fewer to visit. -/
theorem Context.unvisited_lt (hname : c.fragments.has name = true) (hnew : name ∉ names) :
    (unvisited c.fragments.names (names ++ [name])).length < (unvisited c.fragments.names names).length :=
  Search.unvisited_lt (Entries.has_iff_mem_names.mp hname) hnew

/-- Spreads followed one after another add what a search of all of them adds, if each does. -/
theorem foldlM_visits {fuel : Nat} (hstep : ∀ {names name out}, (unvisited c.fragments.names names).length < fuel →
      Spreads.enter c fuel names name = .ok out → ∃ added, out = names ++ added ∧ Visits c.references names [name] added)
    (todo : List String) :
    ∀ {names out}, (unvisited c.fragments.names names).length < fuel → todo.foldlM (Spreads.enter c fuel) names = .ok out →
      ∃ added, out = names ++ added ∧ Visits c.references names todo added := by
  induction todo with
  | nil =>
    intro names out _ h
    cases h
    exact ⟨[], (List.append_nil names).symm, .nil⟩
  | cons name rest ih =>
    intro names out hfuel h
    rw [List.foldlM_cons] at h
    obtain ⟨middle, hmiddle, h⟩ := bind_eq_ok.mp h
    obtain ⟨first, rfl, hfirst⟩ := hstep hfuel hmiddle
    have hle := @Search.unvisited_le c.fragments.names _ _ (List.subset_append_left names first)
    obtain ⟨second, rfl, hsecond⟩ := ih (by omega) h
    exact ⟨first ++ second, List.append_assoc names first second, hfirst.append hsecond⟩

/-- A spread that is followed with more steps than there are fragments left adds what a search of its name adds. -/
theorem enter_visits (fuel : Nat) :
    ∀ {names name out}, (unvisited c.fragments.names names).length < fuel → Spreads.enter c fuel names name = .ok out →
      ∃ added, out = names ++ added ∧ Visits c.references names [name] added := by
  induction fuel with
  | zero => exact fun h => absurd h (Nat.not_lt_zero _)
  | succ fuel ih =>
    intro names name out hfuel h
    rw [Spreads.enter] at h
    split at h
    · rename_i hvisited
      cases h
      exact ⟨[], (List.append_nil names).symm, .passed (List.contains_iff_mem.mp hvisited)⟩
    · rename_i hnew
      rw [List.contains_iff_mem] at hnew
      split at h
      · rename_i f hf
        have hget := Context.fragment_eq_ok.mp hf
        rw [reachAll_eq_foldlM, ← Context.references_of_get? hget] at h
        have hless := Context.unvisited_lt (Entries.has_iff.mpr ⟨f, hget⟩) hnew
        obtain ⟨added, rfl, hadded⟩ := foldlM_visits ih (c.references name) (by omega) h
        exact ⟨name :: added, by simp, hadded.entered hnew⟩
      · cases h

/-- Spreads followed one after another come to the same with either number of steps, if each does. -/
theorem foldlM_enter_eq {fuel fuel' : Nat} (hstep : ∀ {names name}, (unvisited c.fragments.names names).length < fuel →
      (unvisited c.fragments.names names).length < fuel' → Spreads.enter c fuel names name = Spreads.enter c fuel' names name)
    (todo : List String) (hfuel : (unvisited c.fragments.names names).length < fuel)
    (hfuel' : (unvisited c.fragments.names names).length < fuel') :
    todo.foldlM (Spreads.enter c fuel) names = todo.foldlM (Spreads.enter c fuel') names := by
  refine foldlM_congr (P := fun names =>
    (unvisited c.fragments.names names).length < fuel ∧ (unvisited c.fragments.names names).length < fuel')
    (fun hlt => hstep hlt.1 hlt.2) ?_ ⟨hfuel, hfuel'⟩
  intro names name out hlt hout
  obtain ⟨added, rfl, -⟩ := enter_visits fuel hlt.1 hout
  have hle := @Search.unvisited_le c.fragments.names _ _ (List.subset_append_left names added)
  omega

/-- The number of steps does not matter where there are more of them than fragments left. -/
theorem enter_eq_of_lt (fuel : Nat) :
    ∀ {fuel' names name}, (unvisited c.fragments.names names).length < fuel →
      (unvisited c.fragments.names names).length < fuel' →
      Spreads.enter c fuel names name = Spreads.enter c fuel' names name := by
  induction fuel with
  | zero => exact fun h => absurd h (Nat.not_lt_zero _)
  | succ fuel ih =>
    intro fuel' names name hfuel hfuel'
    obtain ⟨fewer, rfl⟩ := Nat.exists_eq_succ_of_ne_zero (Nat.ne_zero_of_lt hfuel')
    rw [Spreads.enter, Spreads.enter]
    split
    · rfl
    · rename_i hnew
      rw [List.contains_iff_mem] at hnew
      split
      · rename_i f hf
        have hless := Context.unvisited_lt (Entries.has_iff.mpr ⟨f, Context.fragment_eq_ok.mp hf⟩) hnew
        rw [reachAll_eq_foldlM, reachAll_eq_foldlM]
        exact foldlM_enter_eq ih _ (by omega) (by omega)
      · rfl

/-- From the start all fragments are left to visit. -/
theorem Context.length_unvisited_nil (c : Context) : (unvisited c.fragments.names []).length = c.fragments.length := by
  simp [unvisited, Entries.names]

/-- A search may be given any number of steps beyond that of the fragments. -/
theorem Context.fragmentsReached_eq {fuel : Nat} {set : SelectionSet} (h : c.fragments.length < fuel) :
    c.fragmentsReached set = (allReferences set.selections).foldlM (Spreads.enter c fuel) [] := by
  have hall := c.length_unvisited_nil
  rw [Context.fragmentsReached, reachAll_eq_foldlM]
  exact foldlM_enter_eq (enter_eq_of_lt _) _ (by omega) (by omega)

/-- A spread that cannot be followed leads to a fragment that is not declared. -/
theorem enter_error (fuel : Nat) {e : Fault} :
    ∀ {names name}, Spreads.enter c fuel names name = .error e →
      ∃ missing, e = .unknownFragment missing ∧ c.fragments.has missing = false ∧
        Relation.ReflTransGen c.Refers name missing := by
  induction fuel with
  | zero => exact fun h => by cases h
  | succ fuel ih =>
    intro names name h
    rw [Spreads.enter] at h
    split at h
    · cases h
    · split at h
      · rename_i f hf
        rw [reachAll_eq_foldlM, ← Context.references_of_get? (Context.fragment_eq_ok.mp hf)] at h
        obtain ⟨next, hnext, before, hfail⟩ := foldlM_eq_error h
        obtain ⟨missing, he, hmissing, hpath⟩ := ih hfail
        exact ⟨missing, he, hmissing, .head hnext hpath⟩
      · rename_i e' hf
        cases h
        unfold Context.fragment at hf
        split at hf
        · cases hf
        · rename_i hget
          cases hf
          exact ⟨name, rfl, by simp [Entries.has, hget], .refl⟩

end

/-- The fragments that a set reaches. The search ends: any number of steps beyond that of the fragments gives the same result,
however fragments refer to one another. It fails exactly if a name that is not declared can be reached, and then names one of
these. Otherwise it returns the names that can be reached, each once, in the order in which a depth-first search that follows
references as they are written visits them first. -/
theorem fragmentsReached_exact (c : Context) (set : SelectionSet) :
    (∀ fuel, c.fragments.length < fuel →
      Spreads.reachAll (Spreads.enter c fuel) [] set.selections = c.fragmentsReached set) ∧
    ((∃ e, c.fragmentsReached set = .error e) ↔ ∃ name, c.Reaches set.selections name ∧ c.fragments.has name = false) ∧
    (∀ e, c.fragmentsReached set = .error e →
      ∃ name, e = .unknownFragment name ∧ c.Reaches set.selections name ∧ c.fragments.has name = false) ∧
    ∀ names, c.fragmentsReached set = .ok names →
      names.Nodup ∧ (∀ name, name ∈ names ↔ c.Reaches set.selections name) ∧
        InOrder c.references (allReferences set.selections) names := by
  have hall := c.length_unvisited_nil
  have hok : ∀ names, c.fragmentsReached set = .ok names → InOrder c.references (allReferences set.selections) names := by
    intro names h
    rw [Context.fragmentsReached_eq (Nat.lt_succ_self _)] at h
    obtain ⟨added, rfl, hadded⟩ := foldlM_visits (enter_visits _) _ (by omega) h
    exact hadded.inOrder
  have herror : ∀ e, c.fragmentsReached set = .error e →
      ∃ name, e = .unknownFragment name ∧ c.Reaches set.selections name ∧ c.fragments.has name = false := by
    intro e h
    rw [Context.fragmentsReached_eq (Nat.lt_succ_self _)] at h
    obtain ⟨first, hfirst, before, hfail⟩ := foldlM_eq_error h
    obtain ⟨name, he, hname, hpath⟩ := enter_error _ hfail
    exact ⟨name, he, ⟨first, hfirst, hpath⟩, hname⟩
  refine ⟨?_, ⟨?_, ?_⟩, herror, fun names h => ⟨(hok names h).nodup, fun name => (hok names h).mem_iff, hok names h⟩⟩
  · intro fuel hfuel
    rw [Context.fragmentsReached_eq hfuel, reachAll_eq_foldlM]
  · rintro ⟨e, h⟩
    obtain ⟨name, -, hreaches, hname⟩ := herror e h
    exact ⟨name, hreaches, hname⟩
  · rintro ⟨name, hreaches, hname⟩
    cases h : c.fragmentsReached set with
    | error e => exact ⟨e, rfl⟩
    | ok names =>
      have hdeclared := Context.fragmentsReached_declared h name ((hok names h).mem_iff.mpr hreaches)
      rw [hname] at hdeclared
      cases hdeclared

/-- Fragments that refer to one another in a circle: the second one comes back to the first below a field, and goes on to a
third one, before the first one goes on to a fourth. -/
def ringContext : Context where
  schema := default
  operations := []
  fragments :=
    [("Person", ⟨"Person", ⟨"Person", .object⟩, ["Person"], ⟨["Person"], [.spread "Friends", .spread "Named"]⟩, ""⟩),
     ("Friends", ⟨"Friends", ⟨"Person", .object⟩, ["Person"], ⟨["Person"],
        [.field { responseKey := "friends", name := "friends", type := .undeclared,
                  selectionSet := some ⟨["Person"], [.spread "Person"]⟩ },
         .guarded "aged" false ⟨["Person"], [.spread "Aged"]⟩]⟩, ""⟩),
     ("Named", ⟨"Named", ⟨"Person", .object⟩, ["Person"], ⟨["Person"], []⟩, ""⟩),
     ("Aged", ⟨"Aged", ⟨"Person", .object⟩, ["Person"], ⟨["Person"], []⟩, ""⟩)]
  typesUsed := []
  options := default

/-- A set that spreads the first fragment of the circle and the fourth one. -/
def ringSet : SelectionSet := ⟨["Person"], [.spread "Person", .spread "Named"]⟩

theorem fragmentsReached_exact_ring :
    ringContext.Refers "Person" "Friends" ∧ ringContext.Refers "Friends" "Person" ∧
      ringContext.fragmentsReached ringSet = .ok ["Person", "Friends", "Aged", "Named"] ∧
      (∀ name, name ∈ ["Person", "Friends", "Aged", "Named"] ↔ ringContext.Reaches ringSet.selections name) ∧
      InOrder ringContext.references (allReferences ringSet.selections) ["Person", "Friends", "Aged", "Named"] := by
  have hreached : ringContext.fragmentsReached ringSet = .ok ["Person", "Friends", "Aged", "Named"] := rfl
  obtain ⟨-, hmem, horder⟩ := (fragmentsReached_exact ringContext ringSet).2.2.2 _ hreached
  exact ⟨by simp [Context.Refers, Context.references, ringContext, Entries.get?, allReferences, Selection.references],
    by simp [Context.Refers, Context.references, ringContext, Entries.get?, allReferences, Selection.references],
    hreached, hmem, horder⟩

end TypedOperations
