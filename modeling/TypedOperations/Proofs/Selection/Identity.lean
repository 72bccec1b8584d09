import TypedOperations.Proofs.Selection.DepthFirst
import TypedOperations.Selection.Identity

/-!
# What an identity depends on

An operation is identified by its own source and the sources of the fragments that it reaches. Two contexts that declare these
fragments alike identify it alike, whatever else they hold and in whatever order: the searches of both follow the same spreads
step by step (`enter_congr`), although each of them is given a number of steps that depends on all fragments of its context.
-/

namespace TypedOperations

/-- The name is declared in both contexts, by the same fragment. -/
def Context.DeclaresAlike (c c' : Context) (name : String) : Prop :=
  ∃ f, c.fragments.get? name = some f ∧ c'.fragments.get? name = some f

section
variable {c c' : Context} {set : SelectionSet} {names : List String} {name : String}

/-! ## Two searches step by step -/

/-- A spread is followed alike in two contexts that declare alike what can be reached through it. -/
theorem enter_congr (fuel : Nat) :
    ∀ {name}, (∀ n, Relation.ReflTransGen c.Refers name n → c.DeclaresAlike c' n) →
      ∀ names, Spreads.enter c fuel names name = Spreads.enter c' fuel names name := by
  induction fuel with
  | zero => exact fun _ _ => rfl
  | succ fuel ih =>
    intro name alike names
    obtain ⟨f, hf, hf'⟩ := alike name .refl
    rw [Spreads.enter, Spreads.enter, Context.fragment_eq_ok.mpr hf, Context.fragment_eq_ok.mpr hf']
    split
    · rfl
    · -- both go on with the references of the same fragment
      dsimp only
      rw [reachAll_eq_foldlM, reachAll_eq_foldlM]
      refine foldlM_congr_mem (fun next hnext => ih fun n hn => alike n (.head ?_ hn)) _
      rw [Context.Refers, Context.references_of_get? hf]
      exact hnext

/-- Two contexts that declare alike what a set reaches in the first give the same fragments. -/
theorem Context.fragmentsReached_congr (alike : ∀ name, c.Reaches set.selections name → c.DeclaresAlike c' name) :
    c.fragmentsReached set = c'.fragmentsReached set := by
  have hless : c.fragments.length < c.fragments.length + c'.fragments.length + 1 := by omega
  have hless' : c'.fragments.length < c.fragments.length + c'.fragments.length + 1 := by omega
  rw [Context.fragmentsReached_eq hless, Context.fragmentsReached_eq hless']
  exact foldlM_congr_mem (fun first hfirst => enter_congr _ fun n hn => alike n ⟨first, hfirst, hn⟩) _

/-- A set that reaches declared fragments only is searched with success, and the search gives what can be reached. -/
theorem Context.exists_fragmentsReached (h : ∀ name, c.Reaches set.selections name → c.fragments.has name = true) :
    ∃ names, c.fragmentsReached set = .ok names ∧ ∀ name ∈ names, c.Reaches set.selections name := by
  rw [Context.fragmentsReached_eq (Nat.lt_succ_self _)]
  cases hrun : (allReferences set.selections).foldlM (Spreads.enter c (c.fragments.length + 1)) [] with
  | error e =>
    obtain ⟨first, hfirst, before, hfail⟩ := foldlM_eq_error hrun
    obtain ⟨missing, -, hmissing, hpath⟩ := enter_error _ hfail
    rw [h missing ⟨first, hfirst, hpath⟩] at hmissing
    cases hmissing
  | ok names =>
    have hall := c.length_unvisited_nil
    obtain ⟨_, rfl, hadded⟩ := foldlM_visits (enter_visits _) _ (by omega) hrun
    exact ⟨names, rfl, fun name hname => hadded.inOrder.mem_iff.mp hname⟩

/-- Fragments that two contexts declare alike have the same sources in both. -/
theorem Context.fragmentSources_alike (h : ∀ name ∈ names, c.DeclaresAlike c' name) :
    ∃ sources, c.fragmentSources names = .ok sources ∧ c'.fragmentSources names = .ok sources := by
  induction names with
  | nil => exact ⟨[], rfl, rfl⟩
  | cons name rest ih =>
    obtain ⟨sources, hsources, hsources'⟩ := ih fun n hn => h n (List.mem_cons_of_mem name hn)
    obtain ⟨f, hf, hf'⟩ := h name List.mem_cons_self
    refine ⟨f.source :: sources, ?_, ?_⟩
    · exact bind_eq_ok.mpr ⟨f, Context.fragment_eq_ok.mpr hf, bind_eq_ok.mpr ⟨sources, hsources, rfl⟩⟩
    · exact bind_eq_ok.mpr ⟨f, Context.fragment_eq_ok.mpr hf', bind_eq_ok.mpr ⟨sources, hsources', rfl⟩⟩

end

/-- Identities are stable under unrelated edits. Take an operation and two contexts. If every fragment that the operation
reaches in the first is declared there, and declared by the same fragment in the second, then both contexts find the same
fragments in the same order, and both identify the operation by the same source and the same digest. Nothing is asked of the
other operations and fragments of either context, of the order in which they stand, or of their number. -/
theorem operationId_unaffected (c c' : Context) (o : Operation)
    (alike : ∀ name, c.Reaches o.set.selections name → c.DeclaresAlike c' name) :
    ∃ names source, c.fragmentsReached o.set = .ok names ∧ c'.fragmentsReached o.set = .ok names ∧
      c.operationId o names = .ok (source, Digest.ofText source) ∧
      c'.operationId o names = .ok (source, Digest.ofText source) := by
  have hdeclared : ∀ name, c.Reaches o.set.selections name → c.fragments.has name = true := by
    intro name hname
    obtain ⟨f, hf, -⟩ := alike name hname
    exact Entries.has_iff.mpr ⟨f, hf⟩
  obtain ⟨names, hnames, hreaches⟩ := Context.exists_fragmentsReached hdeclared
  have hnames' : c'.fragmentsReached o.set = .ok names := by rw [← Context.fragmentsReached_congr alike, hnames]
  have halike : ∀ name ∈ names, c.DeclaresAlike c' name := fun name hname => alike name (hreaches name hname)
  obtain ⟨sources, hsources, hsources'⟩ := Context.fragmentSources_alike halike
  refine ⟨names, String.intercalate "\n" (o.source :: sources), hnames, hnames', ?_, ?_⟩
  · exact bind_eq_ok.mpr ⟨_, bind_eq_ok.mpr ⟨sources, hsources, rfl⟩, rfl⟩
  · exact bind_eq_ok.mpr ⟨_, bind_eq_ok.mpr ⟨sources, hsources', rfl⟩, rfl⟩

/-- A query for people: their friends are people again. -/
def peopleQuery : Operation :=
  ⟨"People", .query, [], "query People { ...Person }", ⟨["Person"], [.spread "Person"]⟩, some "Person"⟩

/-- Fragments on people that refer to each other, after one that the query does not reach. -/
def peopleContext : Context where
  schema := default
  operations := [("People", peopleQuery)]
  fragments :=
    [("Draft", ⟨"Draft", ⟨"Person", .object⟩, ["Person"], ⟨["Person"], [.spread "Person"]⟩, "fragment Draft on Person"⟩),
     ("Person", ⟨"Person", ⟨"Person", .object⟩, ["Person"], ⟨["Person"], [.spread "Friends"]⟩, "fragment Person on Person"⟩),
     ("Friends", ⟨"Friends", ⟨"Person", .object⟩, ["Person"], ⟨["Person"],
        [.field { responseKey := "friends", name := "friends", type := .undeclared,
                  selectionSet := some ⟨["Person"], [.spread "Person"]⟩ }]⟩, "fragment Friends on Person"⟩)]
  typesUsed := []
  options := default

/-- The fragments after some edits: they stand in another order, the one that the query does not reach spreads something else,
and a fragment and an operation were added. -/
def editedPeopleContext : Context :=
  { peopleContext with
    operations := ("Nobody", { peopleQuery with name := "Nobody" }) :: peopleContext.operations
    fragments :=
      ("Other", ⟨"Other", ⟨"Person", .object⟩, ["Person"], ⟨["Person"], []⟩, "fragment Other on Person"⟩) ::
        Entries.put peopleContext.fragments.reverse "Draft"
          ⟨"Draft", ⟨"Person", .object⟩, ["Person"], ⟨["Person"], [.spread "Lost"]⟩, "fragment Draft on Person"⟩ }

/-- What the query for people reaches. -/
theorem peopleContext_reaches {name : String} (h : peopleContext.Reaches peopleQuery.set.selections name) :
    name ∈ ["Person", "Friends"] := by
  obtain ⟨first, hfirst, hpath⟩ := h
  induction hpath with
  | refl =>
    have hstart : allReferences peopleQuery.set.selections = ["Person"] := rfl
    rw [hstart] at hfirst
    exact List.mem_cons.mpr (Or.inl (List.mem_singleton.mp hfirst))
  | tail _ hrefers ih =>
    have hclosed : ∀ a ∈ ["Person", "Friends"], ∀ b ∈ peopleContext.references a, b ∈ ["Person", "Friends"] := by decide
    exact hclosed _ ih _ hrefers

theorem operationId_unaffected_people :
    (∀ name, peopleContext.Reaches peopleQuery.set.selections name → peopleContext.DeclaresAlike editedPeopleContext name) ∧
      peopleContext.fragmentsReached peopleQuery.set = .ok ["Person", "Friends"] ∧
      editedPeopleContext.fragmentsReached peopleQuery.set = .ok ["Person", "Friends"] ∧
      ∃ source, peopleContext.operationId peopleQuery ["Person", "Friends"] = .ok (source, Digest.ofText source) ∧
        editedPeopleContext.operationId peopleQuery ["Person", "Friends"] = .ok (source, Digest.ofText source) := by
  have halike : ∀ name, peopleContext.Reaches peopleQuery.set.selections name →
      peopleContext.DeclaresAlike editedPeopleContext name := by
    intro name hname
    rcases List.mem_cons.mp (peopleContext_reaches hname) with rfl | hname
    · exact ⟨_, rfl, rfl⟩
    · cases List.mem_singleton.mp hname
      exact ⟨_, rfl, rfl⟩
  have hreached : peopleContext.fragmentsReached peopleQuery.set = .ok ["Person", "Friends"] := rfl
  obtain ⟨names, source, hnames, hnames', hid, hid'⟩ := operationId_unaffected _ _ peopleQuery halike
  rw [hreached] at hnames
  cases hnames
  exact ⟨halike, hreached, hnames', source, hid, hid'⟩

end TypedOperations
