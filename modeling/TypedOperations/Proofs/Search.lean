import Mathlib.Data.List.Induction
import Mathlib.Data.List.Nodup
import Mathlib.Logic.Relation

/-!
# The order of first visit

Names that refer to names are searched depth first. One list of visited names serves the whole search, and a name in it is
passed, also while what it refers to is still being searched. The order in which names are visited is said without any
recursion (`Search.InOrder`): each name is the first one not yet visited among the references of the name that was visited last
and still has such a reference, and at the end there is none. This alone makes the names of the list those that can be reached
(`InOrder.mem_iff`). What a search of some names adds is composed of what a search of each adds (`Visits.append`), and nothing
else is added in that order (`Visits.unique`).
-/

namespace TypedOperations.Search

/-- The name to visit after some others. The name visited last that refers to one which is not yet visited gives the first of
these; if none does, the names at the start do. -/
def nextVisit (references : String → List String) (start visited : List String) : Option String :=
  (visited.reverse.map references ++ [start]).findSome? fun names => names.find? fun name => !visited.contains name

/-- The names are in the order of first visit: each is the one to visit after those before it, and no further one is left. -/
structure InOrder (references : String → List String) (start names : List String) : Prop where
  next : ∀ before name after, names = before ++ name :: after → nextVisit references start before = some name
  last : nextVisit references start names = none

/-- What a search of the names in `todo` adds to the visited names: in the order of first visit, with nothing left to visit in
these names or in the references of those that were added. -/
structure Visits (references : String → List String) (names todo added : List String) : Prop where
  order : ∀ before name after, added = before ++ name :: after →
    (before.reverse.map references ++ [todo]).findSome? (fun list => list.find? fun n => !(names ++ before).contains n) =
      some name
  closed : ∀ a ∈ added, references a ⊆ names ++ added
  found : todo ⊆ names ++ added

/-- The names of a list that are not yet visited. -/
def unvisited (all visited : List String) : List String :=
  all.filter fun name => !visited.contains name

section
variable {references : String → List String} {start names todo added : List String} {name : String}

/-! ## What the order says -/

/-- Nothing is left to visit in a list exactly if all of it was visited. -/
theorem find?_eq_none_iff_subset {list visited : List String} :
    (list.find? fun name => !visited.contains name) = none ↔ list ⊆ visited := by
  simp [List.subset_def]

/-- The next name is a reference of a visited name or stands at the start, and was not visited. -/
theorem mem_of_nextVisit (h : nextVisit references start names = some name) :
    name ∉ names ∧ (name ∈ start ∨ ∃ a ∈ names, name ∈ references a) := by
  obtain ⟨list, hlist, hfind⟩ := List.exists_of_findSome?_eq_some h
  have hnew : name ∉ names := by simpa using List.find?_some hfind
  have hin := List.mem_of_find?_eq_some hfind
  refine ⟨hnew, ?_⟩
  rcases List.mem_append.mp hlist with hlist | hlist
  · obtain ⟨a, ha, rfl⟩ := List.mem_map.mp hlist
    exact Or.inr ⟨a, List.mem_reverse.mp ha, hin⟩
  · cases List.mem_singleton.mp hlist
    exact Or.inl hin

/-- Where no name is next, the names at the start and all references of visited names were visited. -/
theorem nextVisit_eq_none : nextVisit references start names = none ↔ (∀ a ∈ names, references a ⊆ names) ∧ start ⊆ names := by
  simp [nextVisit, List.findSome?_eq_none_iff, List.subset_def]

/-- What each further visit keeps, holds of names in the order of first visit. -/
theorem InOrder.induction {P : List String → Prop} (h : InOrder references start names) (nil : P [])
    (visit : ∀ before name, P before → nextVisit references start before = some name → P (before ++ [name])) : P names := by
  have hprefix : ∀ before after, names = before ++ after → P before := by
    intro before
    induction before using List.reverseRecOn with
    | nil => exact fun _ _ => nil
    | append_singleton before name ih =>
      intro after hsplit
      rw [List.append_assoc] at hsplit
      exact visit before name (ih _ hsplit) (h.next before name after hsplit)
  exact hprefix names [] (List.append_nil names).symm

/-- The order names nothing twice. -/
theorem InOrder.nodup (h : InOrder references start names) : names.Nodup := by
  refine h.induction List.nodup_nil fun before name hbefore hnext => ?_
  rw [← List.concat_eq_append, List.nodup_concat]
  exact ⟨(mem_of_nextVisit hnext).1, hbefore⟩

/-- The names in the order are those that can be reached from the start. -/
theorem InOrder.mem_iff (h : InOrder references start names) :
    name ∈ names ↔ ∃ first ∈ start, Relation.ReflTransGen (fun a b => b ∈ references a) first name := by
  obtain ⟨hclosed, hstart⟩ := nextVisit_eq_none.mp h.last
  constructor
  · have hall : ∀ n ∈ names, ∃ first ∈ start, Relation.ReflTransGen (fun a b => b ∈ references a) first n := by
      refine h.induction (P := fun names => ∀ n ∈ names, ∃ first ∈ start,
        Relation.ReflTransGen (fun a b => b ∈ references a) first n) (fun n hn => absurd hn List.not_mem_nil) ?_
      intro before next hbefore hnext n hn
      rcases List.mem_append.mp hn with hn | hn
      · exact hbefore n hn
      · rw [List.mem_singleton.mp hn]
        rcases (mem_of_nextVisit hnext).2 with hstarts | ⟨a, ha, hrefers⟩
        · exact ⟨next, hstarts, .refl⟩
        · obtain ⟨first, hfirst, hpath⟩ := hbefore a ha
          exact ⟨first, hfirst, hpath.tail hrefers⟩
    exact hall name
  · rintro ⟨first, hfirst, hpath⟩
    induction hpath with
    | refl => exact hstart hfirst
    | tail _ hrefers ih => exact hclosed _ ih hrefers

/-! ## What a search adds -/

/-- A search from nothing visited gives the order of first visit. -/
theorem Visits.inOrder (h : Visits references [] todo added) : InOrder references todo added :=
  ⟨h.order, nextVisit_eq_none.mpr ⟨h.closed, h.found⟩⟩

/-- A search of nothing adds nothing. -/
theorem Visits.nil : Visits references names [] [] :=
  ⟨by simp, by simp, by simp⟩

/-- A name that was visited adds nothing. -/
theorem Visits.passed (h : name ∈ names) : Visits references names [name] [] :=
  ⟨by simp, by simp, by simpa using h⟩

/-- A new name adds itself and what a search of its references adds. -/
theorem Visits.entered (hnew : name ∉ names) (h : Visits references (names ++ [name]) (references name) added) :
    Visits references names [name] (name :: added) := by
  have hsame : names ++ name :: added = names ++ [name] ++ added := by simp
  refine ⟨?_, ?_, by simp⟩
  · intro before n after hsplit
    cases before with
    | nil =>
      cases (List.cons.inj hsplit).1
      simp [hnew]
    | cons first before =>
      obtain ⟨rfl, hadded⟩ := List.cons.inj hsplit
      have hnext := h.order before n after hadded
      rw [List.reverse_cons, List.map_append, List.findSome?_append]
      simp only [List.append_assoc, List.singleton_append] at hnext
      rw [List.map_singleton, hnext, Option.some_or]
  · intro a ha
    rw [hsame]
    rcases List.mem_cons.mp ha with rfl | ha
    · exact h.found
    · exact h.closed a ha

/-- What one search adds and then a search of further names adds, a search of all of them adds. -/
theorem Visits.append {first second more : List String} (h : Visits references names todo first)
    (h' : Visits references (names ++ first) more second) : Visits references names (todo ++ more) (first ++ second) := by
  -- a name of the second search comes after all of the first, where nothing is left to visit
  have hlater : ∀ middle n after, second = middle ++ n :: after →
      ((first ++ middle).reverse.map references ++ [todo ++ more]).findSome?
        (fun list => list.find? fun n => !(names ++ (first ++ middle)).contains n) = some n := by
    intro middle n after hsplit
    have hnext := h'.order middle n after hsplit
    have hdone : (first.reverse.map references).findSome?
        (fun list => list.find? fun n => !(names ++ (first ++ middle)).contains n) = none := by
      rw [List.findSome?_eq_none_iff]
      intro list hlist
      obtain ⟨a, ha, rfl⟩ := List.mem_map.mp hlist
      rw [find?_eq_none_iff_subset, ← List.append_assoc]
      exact List.subset_append_of_subset_left _ (h.closed a (List.mem_reverse.mp ha))
    have hpassed : (todo ++ more).find? (fun n => !(names ++ (first ++ middle)).contains n) =
        more.find? (fun n => !(names ++ (first ++ middle)).contains n) := by
      have hnone : todo.find? (fun n => !(names ++ (first ++ middle)).contains n) = none := by
        rw [find?_eq_none_iff_subset, ← List.append_assoc]
        exact List.subset_append_of_subset_left _ h.found
      rw [List.find?_append, hnone, Option.none_or]
    rw [List.append_assoc] at hnext
    rw [List.reverse_append, List.map_append, List.append_assoc, List.findSome?_append, List.findSome?_append, hdone,
      Option.none_or, List.findSome?_singleton, hpassed, ← hnext, List.findSome?_append, List.findSome?_singleton]
  refine ⟨?_, ?_, ?_⟩
  · intro before n after hsplit
    rcases List.append_eq_append_iff.mp hsplit with ⟨middle, rfl, hsecond⟩ | ⟨middle, hfirst, hafter⟩
    · exact hlater middle n after hsecond
    · cases middle with
      | nil =>
        rw [List.append_nil] at hfirst
        subst hfirst
        simpa using hlater [] n after hafter.symm
      | cons m middle =>
        cases (List.cons.inj hafter).1
        have hnext := h.order before n middle hfirst
        rw [List.findSome?_append, List.findSome?_singleton] at hnext ⊢
        rw [List.find?_append, ← Option.or_assoc, hnext, Option.some_or]
  · intro a ha
    rw [← List.append_assoc]
    rcases List.mem_append.mp ha with ha | ha
    · exact fun b hb => List.mem_append_left _ (h.closed a ha hb)
    · exact h'.closed a ha
  · rw [← List.append_assoc]
    exact List.append_subset.mpr ⟨fun b hb => List.mem_append_left _ (h.found hb), h'.found⟩

/-- A search adds the same names in the same order, however it is run. -/
theorem Visits.unique {other : List String} (h : Visits references names todo added)
    (h' : Visits references names todo other) : added = other := by
  -- where both agree so far, the next name is the same, and neither ends before the other
  have hprefix : ∀ {added other}, Visits references names todo added → Visits references names todo other →
      ∀ before, before <+: added → before <+: other := by
    intro added other h h' before
    induction before using List.reverseRecOn with
    | nil => exact fun _ => List.nil_prefix
    | append_singleton before name ih =>
      rintro ⟨after, hafter⟩
      have hsplit : added = before ++ name :: after := by rw [← hafter, List.append_assoc, List.singleton_append]
      have hnext := h.order before name after hsplit
      obtain ⟨rest, hrest⟩ := ih ⟨name :: after, hsplit.symm⟩
      cases rest with
      | nil =>
        rw [List.append_nil] at hrest
        subst hrest
        have hnone : (before.reverse.map references ++ [todo]).findSome?
            (fun list => list.find? fun n => !(names ++ before).contains n) = none := by
          rw [List.findSome?_eq_none_iff]
          intro list hlist
          rw [find?_eq_none_iff_subset]
          rcases List.mem_append.mp hlist with hlist | hlist
          · obtain ⟨a, ha, rfl⟩ := List.mem_map.mp hlist
            exact h'.closed a (List.mem_reverse.mp ha)
          · rw [List.mem_singleton.mp hlist]
            exact h'.found
        rw [hnone] at hnext
        cases hnext
      | cons first rest =>
        have hfirst := h'.order before first rest hrest.symm
        rw [hnext] at hfirst
        cases hfirst
        exact ⟨rest, by rw [← hrest, List.append_assoc, List.singleton_append]⟩
  have hle := hprefix h h' added (List.prefix_refl _)
  have hge := hprefix h' h other (List.prefix_refl _)
  exact hle.eq_of_length_le hge.length_le

end

/-! ## How much is left to visit -/

section
variable {all names : List String} {name : String}

/-- More visited names leave fewer to visit. -/
theorem unvisited_le {more : List String} (h : names ⊆ more) : (unvisited all more).length ≤ (unvisited all names).length := by
  refine (List.monotone_filter_right _ fun name hname => ?_).length_le
  simp only [Bool.not_eq_true', List.contains_eq_mem, decide_eq_false_iff_not] at hname ⊢
  exact fun hin => hname (h hin)

/-- A visit to a name of the list leaves one fewer to visit. -/
theorem unvisited_lt (hname : name ∈ all) (hnew : name ∉ names) :
    (unvisited all (names ++ [name])).length < (unvisited all names).length := by
  have hfilter : unvisited all (names ++ [name]) = (unvisited all names).filter fun n => n != name := by
    rw [unvisited, unvisited, List.filter_filter]
    refine List.filter_congr fun n _ => ?_
    by_cases hn : n = name <;> simp [hn]
  rw [hfilter, List.length_filter_lt_length_iff_exists]
  exact ⟨name, List.mem_filter.mpr ⟨hname, by simpa using hnew⟩, by simp⟩

end

end TypedOperations.Search
