import Mathlib.Data.List.Forall2
import TypedOperations.Proofs.Execution.Document

/-!
# Resolving keeps execution

A document and what it resolves to are executed alike: for an object type and values of the variables they give the same
fields of a response, with the values that their arguments denote. Two things set the executions apart. Resolving replaces
type conditions by lists of possible types, narrowed by every condition around them, so the object type must be possible where
it is looked at. And a document spreads a fragment once while its resolved form spreads it again and again: what a second
spread gives must have been seen already. `Agrees` carries that from one list of selections to the next: a fragment that was
spread before has either given all its keys, or is not met again.
-/

namespace TypedOperations

/-- The field of a response that an occurrence asks for. -/
def Occurrence.response (o : Occurrence) : ResponseField := ⟨o.key, o.field.name, o.field.arguments⟩

@[simp] theorem Occurrence.response_key (o : Occurrence) : o.response.key = o.key := rfl

@[simp] theorem Occurrence.underAll_response (gs : List Resolve.Guard) (o : Occurrence) :
    (o.underAll gs).response = o.response := rfl

namespace Context

/-- Everything that a visit of the fragment meets has a key that was seen. -/
def Done (c : Context) (v : Visit) (seen : List String) (name : String) : Prop :=
  ∀ f os, c.fragments.get? name = some f → v.types ⊆ f.possibleTypes → c.Walks v f.set.selections os →
    ∀ o ∈ os, o.key ∈ seen

/-- The selections spread the fragment, or a fragment from which spreads lead to it. -/
def LeadsTo (c : Context) (sels : List Selection) (name : String) : Prop :=
  ∃ first ∈ allSpreadNames sels, Relation.ReflTransGen c.Spreads first name

variable {c : Context} {v : Visit} {sels sels' : List Selection} {name : String}

/-- What was seen stays seen. -/
theorem Done.mono {seen seen' : List String} (h : c.Done v seen name) (hsub : seen ⊆ seen') : c.Done v seen' name :=
  fun f os hf ht hw o ho => hsub (h f os hf ht hw o ho)

/-- Selections lead to what a part of them leads to. -/
theorem LeadsTo.mono (h : c.LeadsTo sels name) (hsub : allSpreadNames sels ⊆ allSpreadNames sels') :
    c.LeadsTo sels' name := by
  obtain ⟨first, hf, hr⟩ := h
  exact ⟨first, hsub hf, hr⟩

/-- A spread leads to what its fragment leads to. -/
theorem LeadsTo.of_fragment {spread : String} {f : Fragment} (hf : c.fragments.get? spread = some f)
    (h : c.LeadsTo f.set.selections name) : Relation.TransGen c.Spreads spread name := by
  obtain ⟨first, hfirst, hr⟩ := h
  exact Relation.TransGen.head' ⟨f, hf, hfirst⟩ hr

/-- Once a fragment was met, everything in it has a key that was seen. -/
theorem Done.of_walks {f : Fragment} {os : List Occurrence} {seen : List String} (hf : c.fragments.get? name = some f)
    (h : c.Walks v f.set.selections os) : c.Done v (os.map Occurrence.key ++ seen) name := by
  intro f' os' hf' _ h' o ho
  rw [hf] at hf'
  cases hf'
  rw [h'.unique h] at ho
  exact List.mem_append_left _ (List.mem_map_of_mem ho)

end Context

/-- Written selections and resolved ones agree. However the resolved ones are executed, the written ones give the same first
fields beyond the keys seen, as long as every fragment spread before has given its keys or is not met again; and every
fragment that they spread gives its keys. -/
def Agrees (s : Schema) (d : Language.Document) (c : Context) (values : String → Bool) (type : String)
    (xs : List Language.Selection) (sels : List Selection) : Prop :=
  ∀ os, c.Walks (.executing values type) sels os → ∀ visited seen : List String,
    (∀ name ∈ visited, c.Done (.executing values type) seen name ∨ ¬c.LeadsTo sels name) →
      ∃ visited' out, Collects s d values type visited xs visited' out ∧
        firstFieldsAfter seen out = firstFieldsAfter seen (os.map Occurrence.response) ∧
        ∀ name ∈ visited', name ∈ visited ∨ c.Done (.executing values type) (os.map Occurrence.key ++ seen) name

/-- The written and the resolved fragment of a name agree on an object type that is possible in it. -/
def FragmentAgrees (s : Schema) (d : Language.Document) (c : Context) (values : String → Bool) (type name : String) : Prop :=
  ∀ f r, Language.fragment? name d = some f → c.fragments.get? name = some r → type ∈ r.possibleTypes →
    Agrees s d c values type f.selections r.set.selections

/-! ## Selections that can be executed -/

namespace Language

/-- A selection with plain conditions and well-spelled arguments. -/
structure Selection.Executable (x : Selection) : Prop where
  plain : PlainConditions x.directives
  spelled : ∀ a ∈ x.arguments, a.value.WellSpelled

/-- All of the selections, nested ones included, can be executed. -/
def AllExecutable (xs : List Selection) : Prop :=
  ∀ x ∈ allSelections xs, x.Executable

theorem Selection.mem_all_self (x : Selection) : x ∈ x.all := by
  match x with
  | .field _ _ _ _ none => simp [Selection.all]
  | .field _ _ _ _ (some _) => simp [Selection.all]
  | .spread _ _ => simp [Selection.all]
  | .inline _ _ _ => simp [Selection.all]

variable {x : Selection} {rest sub : List Selection}

theorem AllExecutable.head (h : AllExecutable (x :: rest)) : x.Executable :=
  h x (by simp [allSelections, x.mem_all_self])

theorem AllExecutable.tail (h : AllExecutable (x :: rest)) : AllExecutable rest :=
  fun y hy => h y (by simp [allSelections, hy])

theorem AllExecutable.field {label : Option String} {name : String} {args : List Argument} {ds : List Directive}
    (h : AllExecutable (.field label name args ds (some sub) :: rest)) : AllExecutable sub :=
  fun y hy => h y (by simp [allSelections, Selection.all, hy])

theorem AllExecutable.inline {condition : Option String} {ds : List Directive}
    (h : AllExecutable (.inline condition ds sub :: rest)) : AllExecutable sub :=
  fun y hy => h y (by simp [allSelections, Selection.all, hy])

/-- An operation that is looked up is a definition of the document. -/
theorem mem_of_operation? {d : Document} {name : String} {o : OperationDefinition} (h : operation? name d = some o) :
    .operation o ∈ d := by
  induction d with
  | nil => cases h
  | cons x rest ih =>
    cases x with
    | operation p =>
      rcases Option.or_eq_some_iff.mp h with h | ⟨-, h⟩
      · exact List.mem_cons_of_mem _ (ih h)
      · split at h
        · cases h
          exact List.mem_cons_self
        · cases h
    | _ => exact List.mem_cons_of_mem _ (ih h)

/-- A fragment that is looked up is a definition of the document. -/
theorem mem_of_fragment? {d : Document} {name : String} {f : FragmentDefinition} (h : fragment? name d = some f) :
    .fragment f ∈ d := by
  induction d with
  | nil => cases h
  | cons x rest ih =>
    cases x with
    | fragment g =>
      rcases Option.or_eq_some_iff.mp h with h | ⟨-, h⟩
      · exact List.mem_cons_of_mem _ (ih h)
      · split at h
        · cases h
          exact List.mem_cons_self
        · cases h
    | _ => exact List.mem_cons_of_mem _ (ih h)

variable {d : Document} {name : String}

theorem PlainDocument.operation (h : PlainDocument d) (spelled : WellSpelled d) {o : OperationDefinition}
    (ho : operation? name d = some o) : AllExecutable o.selections :=
  fun y hy => ⟨h _ (mem_of_operation? ho) y hy, spelled _ (mem_of_operation? ho) y hy⟩

theorem PlainDocument.fragment (h : PlainDocument d) (spelled : WellSpelled d) {f : FragmentDefinition}
    (hf : fragment? name d = some f) : AllExecutable f.selections :=
  fun y hy => ⟨h _ (mem_of_fragment? hf) y hy, spelled _ (mem_of_fragment? hf) y hy⟩

end Language

section
variable {s : Schema} {options : Options} {d : Language.Document} {c : Context} {values : String → Bool} {type : String}
  {xs ys : List Language.Selection} {sels sels' : List Selection}

/-! ## One selection after another -/

theorem agrees_nil : Agrees s d c values type [] [] := by
  intro os hw visited seen _
  cases hw
  exact ⟨visited, [], .nil, rfl, fun _ h => Or.inl h⟩

/-- Lists that agree do so one after the other. -/
theorem Agrees.append (h : Agrees s d c values type xs sels) (h' : Agrees s d c values type ys sels') :
    Agrees s d c values type (xs ++ ys) (sels ++ sels') := by
  intro os hw visited seen hvisited
  obtain ⟨os₁, os₂, rfl, hw₁, hw₂⟩ := hw.unappend
  have hsub₁ : allSpreadNames sels ⊆ allSpreadNames (sels ++ sels') := by simp [allSpreadNames_append]
  have hsub₂ : allSpreadNames sels' ⊆ allSpreadNames (sels ++ sels') := by simp [allSpreadNames_append]
  obtain ⟨middle, out₁, hc₁, hf₁, hd₁⟩ :=
    h os₁ hw₁ visited seen fun name hn => (hvisited name hn).imp_right fun hl h => hl (h.mono hsub₁)
  -- the second list starts with the keys of the first one seen
  have hmiddle : ∀ name ∈ middle,
      c.Done (.executing values type) (os₁.map Occurrence.key ++ seen) name ∨ ¬c.LeadsTo sels' name := by
    intro name hn
    rcases hd₁ name hn with hn | hdone
    · rcases hvisited name hn with hdone | hl
      · exact Or.inl (hdone.mono (List.subset_append_right _ _))
      · exact Or.inr fun h => hl (h.mono hsub₂)
    · exact Or.inl hdone
  obtain ⟨last, out₂, hc₂, hf₂, hd₂⟩ := h' os₂ hw₂ middle _ hmiddle
  refine ⟨last, out₁ ++ out₂, hc₁.append hc₂, ?_, ?_⟩
  · rw [List.map_append]
    apply firstFieldsAfter_append_congr hf₁
    simpa [Function.comp_def] using hf₂
  · intro name hn
    rcases hd₂ name hn with hn | hdone
    · rcases hd₁ name hn with hn | hdone
      · exact Or.inl hn
      · exact Or.inr (hdone.mono (by simp))
    · exact Or.inr (hdone.mono (by simp [List.append_assoc]))

/-- A selection agrees with guarded ones if, once it is included, it agrees with those inside the guards. -/
theorem agrees_guardAll {x : Language.Selection} {gs : List Resolve.Guard} {possible : List String}
    (plain : Language.PlainConditions x.directives) (hg : Resolve.guards x.directives = .ok (some gs))
    (h : Language.included values x.directives = true → Agrees s d c values type [x] sels) :
    Agrees s d c values type [x] (Resolve.guardAll possible gs sels) := by
  intro os hw visited seen hvisited
  have hincluded : Language.included values x.directives = gs.all (Visit.executing values type).admits :=
    Language.included_of_guards plain hg type
  rcases hw.of_guardAll with ⟨hall, inner, hi, rfl⟩ | ⟨hall, rfl⟩
  · rw [hall] at hincluded
    have hvisited' : ∀ name ∈ visited, c.Done (.executing values type) seen name ∨ ¬c.LeadsTo sels name := by
      simpa [Context.LeadsTo] using hvisited
    simpa [Function.comp_def] using h hincluded inner hi visited seen hvisited'
  · rw [hall] at hincluded
    exact ⟨visited, [], .excluded hincluded .nil, rfl, fun _ hn => Or.inl hn⟩

/-- A selection that a literal condition drops agrees with nothing. -/
theorem agrees_dropped {x : Language.Selection} (plain : Language.PlainConditions x.directives)
    (hg : Resolve.guards x.directives = .ok none) : Agrees s d c values type [x] [] := by
  intro os hw visited seen _
  cases hw
  exact ⟨visited, [], .excluded (Language.included_of_guards plain hg type) .nil, rfl, fun _ hn => Or.inl hn⟩

/-! ## The kinds of selections -/

/-- A field agrees with the field that it becomes. -/
theorem agrees_field {parent : Schema.TypeDef} {label : Option String} {name : String} {args : List Language.Argument}
    {ds : List Language.Directive} {sub : Option (List Language.Selection)} {f : Schema.FieldDef}
    {argValues : List Argument} (set : Option SelectionSet) (hf : s.field? parent name = some f)
    (ha : List.Forall₂ Language.Argument.Denotes args argValues) (hincluded : Language.included values ds = true) :
    Agrees s d c values type [.field label name args ds sub] [Resolve.makeField s f label argValues set] := by
  intro os hw visited seen _
  have hname := Resolve.name_of_field? hf
  cases hw with
  | field _ hnil =>
    cases hnil
    refine ⟨visited, [⟨label.getD name, name, argValues⟩], .field hincluded ha .nil, ?_, fun _ hn => Or.inl hn⟩
    simp [Occurrence.response, Occurrence.key, hname]

/-- An object type satisfies the condition of a fragment exactly if it is possible in the resolved one. -/
theorem satisfies_fragment {f : Language.FragmentDefinition} {r : Fragment} (h : Resolve.fragment s f = .ok r) :
    s.Satisfies type f.condition ↔ type ∈ r.possibleTypes := by
  obtain ⟨-, hpossible, -, t, ht, -⟩ := Resolve.fragment_ok h
  rw [satisfies_iff ht, hpossible]

/-- A spread agrees with the spread of the resolved fragment, if the fragments do and spreads are acyclic. -/
theorem agrees_spread {name : String} {ds : List Language.Directive} (hc : Context.ofDocument s options d = .ok c)
    (acyclic : c.Acyclic) (hfragment : FragmentAgrees s d c values type name)
    (hincluded : Language.included values ds = true) :
    Agrees s d c values type [.spread name ds] [.spread name] := by
  intro os hw visited seen hvisited
  by_cases hn : name ∈ visited
  · -- spread before: it is met again, so it has given its keys
    have hdone : c.Done (.executing values type) seen name := by
      refine (hvisited name hn).resolve_right fun hl => hl ⟨name, ?_, .refl⟩
      simp [allSpreadNames, Selection.spreadNames]
    refine ⟨visited, [], .againSpread hincluded hn .nil, ?_, fun _ h => Or.inl h⟩
    cases hw with
    | enterSpread hr ht hi hnil =>
      cases hnil
      rw [List.append_nil]
      refine (firstFieldsAfter_eq_nil fun x hx => ?_).symm
      obtain ⟨o, ho, rfl⟩ := List.mem_map.mp hx
      exact hdone _ _ hr ht hi o ho
    | passSpread _ hnil =>
      cases hnil
      rfl
  · cases hw with
    | enterSpread hr ht hi hnil =>
      rename_i r inner _
      cases hnil
      obtain ⟨f, hf, hfr⟩ := Context.fragment_of_ofDocument hc hr
      have hmem : type ∈ r.possibleTypes := ht (by simp [Visit.executing])
      -- no spread inside the fragment leads back to it
      have hinside : ∀ n ∈ name :: visited,
          c.Done (.executing values type) seen n ∨ ¬c.LeadsTo r.set.selections n := by
        intro n hnv
        rcases List.mem_cons.mp hnv with rfl | hnv
        · exact Or.inr fun hl => acyclic _ (hl.of_fragment hr)
        · refine (hvisited n hnv).imp_right fun hl h => hl ⟨name, ?_, (h.of_fragment hr).to_reflTransGen⟩
          simp [allSpreadNames, Selection.spreadNames]
      obtain ⟨visited', out, hcol, hfirst, hdone⟩ := hfragment f r hf hr hmem inner hi (name :: visited) seen hinside
      refine ⟨visited', out, ?_, by simpa using hfirst, ?_⟩
      · simpa using Collects.enterSpread hincluded hn hf ((satisfies_fragment hfr).mpr hmem) hcol .nil
      · intro n hnv
        rw [List.append_nil]
        rcases hdone n hnv with hnv | hdone
        · rcases List.mem_cons.mp hnv with rfl | hnv
          · exact Or.inr (Context.Done.of_walks hr hi)
          · exact Or.inl hnv
        · exact Or.inr hdone
    | passSpread hp hnil =>
      cases hnil
      have hp' : ∀ r, c.fragments.get? name = some r → type ∉ r.possibleTypes := by
        simpa [Visit.executing] using hp
      refine ⟨name :: visited, [], .passSpread hincluded hn ?_ .nil, rfl, ?_⟩
      · intro f hf hsat
        obtain ⟨r, hr, hfr⟩ := Context.get?_of_fragment? hc hf
        exact hp' r hr ((satisfies_fragment hfr).mp hsat)
      · intro n hnv
        rcases List.mem_cons.mp hnv with rfl | hnv
        · exact Or.inr fun r _ hr ht => absurd ht (hp r hr)
        · exact Or.inl hnv

/-- An inline fragment without a type agrees with its selections spliced in. -/
theorem agrees_splice {ds : List Language.Directive} (hincluded : Language.included values ds = true)
    (h : Agrees s d c values type xs sels) : Agrees s d c values type [.inline none ds xs] sels := by
  intro os hw visited seen hvisited
  obtain ⟨visited', out, hcol, hfirst, hdone⟩ := h os hw visited seen hvisited
  refine ⟨visited', out, ?_, hfirst, hdone⟩
  simpa using Collects.enterInline hincluded (fun t ht => by cases ht) hcol .nil

/-- An inline fragment with a type agrees with its selections narrowed to the possible types of that type. -/
theorem agrees_narrow {condition : String} {t : Schema.TypeDef} {ref : NamedType} {possible : List String}
    {ds : List Language.Directive} (ht : Resolve.compositeType s condition = .ok t) (htype : type ∈ possible)
    (h : type ∈ possible.filter (s.possibleTypes condition).contains → Agrees s d c values type xs sels)
    (hincluded : Language.included values ds = true) :
    Agrees s d c values type [.inline (some condition) ds xs]
      [.typeCondition ref ⟨possible.filter (s.possibleTypes condition).contains, sels⟩] := by
  intro os hw visited seen hvisited
  have hiff : s.Satisfies type condition ↔ type ∈ possible.filter (s.possibleTypes condition).contains := by
    rw [satisfies_iff ht, List.mem_filter]
    simp [htype]
  cases hw with
  | enterCondition he hi hnil =>
    cases hnil
    have hmem : type ∈ possible.filter (s.possibleTypes condition).contains := he (by simp [Visit.executing])
    have hvisited' : ∀ name ∈ visited, c.Done (.executing values type) seen name ∨ ¬c.LeadsTo sels name := by
      simpa [Context.LeadsTo, allSpreadNames, Selection.spreadNames] using hvisited
    obtain ⟨visited', out, hcol, hfirst, hdone⟩ := h hmem _ hi visited seen hvisited'
    refine ⟨visited', out, ?_, by simpa using hfirst, by simpa using hdone⟩
    have hsat : ∀ t', some condition = some t' → s.Satisfies type t' := by
      rintro _ ⟨⟩
      exact hiff.mpr hmem
    simpa using Collects.enterInline hincluded hsat hcol .nil
  | passCondition hp hnil =>
    cases hnil
    have hnot : ¬s.Satisfies type condition := by
      rw [hiff]
      simpa [Visit.executing] using hp
    exact ⟨visited, [], .passInline hincluded hnot .nil, rfl, fun _ hn => Or.inl hn⟩

/-! ## Whole selection sets -/

/-- What written selections become agrees with them on every possible type, if the fragments that are spread do. -/
theorem agrees_of_resolves (hc : Context.ofDocument s options d = .ok c) (acyclic : c.Acyclic) {parent : Schema.TypeDef}
    {possible : List String} (h : Resolve.Resolves s parent possible xs sels) (htype : type ∈ possible)
    (hx : Language.AllExecutable xs) (hfragments : ∀ name ∈ allSpreadNames sels, FragmentAgrees s d c values type name) :
    Agrees s d c values type xs sels := by
  induction h with
  | nil => exact agrees_nil
  | dropped hg _ ih => exact (agrees_dropped hx.head.plain hg).append (ih htype hx.tail hfragments)
  | leaf hg hf _ ha _ ih =>
    have hrest := ih htype hx.tail fun n hn => hfragments n (by simp [allSpreadNames_append, hn])
    have hargs := Language.argumentsDenote_of_resolve hx.head.spelled ha
    exact (agrees_guardAll hx.head.plain hg (agrees_field none hf hargs)).append hrest
  | composite hg hf _ _ ha _ _ ih =>
    have hrest := ih htype hx.tail fun n hn => hfragments n (by simp [allSpreadNames_append, hn])
    have hargs := Language.argumentsDenote_of_resolve hx.head.spelled ha
    exact (agrees_guardAll hx.head.plain hg (agrees_field _ hf hargs)).append hrest
  | @spread _ _ name _ _ _ _ hg _ ih =>
    have hrest := ih htype hx.tail fun n hn => hfragments n (by simp [allSpreadNames_append, hn])
    have hname := hfragments name (by simp [allSpreadNames_append, allSpreadNames, Selection.spreadNames])
    exact (agrees_guardAll hx.head.plain hg (agrees_spread hc acyclic hname)).append hrest
  | splice hg _ _ ihi ih =>
    have hrest := ih htype hx.tail fun n hn => hfragments n (by simp [allSpreadNames_append, hn])
    have hinner := ihi htype hx.inline fun n hn => hfragments n (by simp [allSpreadNames_append, hn])
    exact (agrees_guardAll hx.head.plain hg (fun hincluded => agrees_splice hincluded hinner)).append hrest
  | narrow hg ht _ _ ihi ih =>
    have hrest := ih htype hx.tail fun n hn => hfragments n (by simp [allSpreadNames_append, hn])
    have hinner := fun hmem => ihi hmem hx.inline fun n hn =>
      hfragments n (by simp [allSpreadNames_append, allSpreadNames, Selection.spreadNames, hn])
    exact (agrees_guardAll hx.head.plain hg (agrees_narrow ht htype hinner)).append hrest

/-- Every fragment of a document agrees with what it resolves to, on every object type that is possible in it. -/
theorem fragmentAgrees (hc : Context.ofDocument s options d = .ok c) (acyclic : c.Acyclic)
    (plain : Language.PlainDocument d) (spelled : Language.WellSpelled d) (name : String) :
    FragmentAgrees s d c values type name := by
  refine acyclic.induction (motive := fun _ name => FragmentAgrees s d c values type name) ?_ name
  intro _ name ih f r hf hr htype
  obtain ⟨r', hr', hfr⟩ := Context.get?_of_fragment? hc hf
  rw [hr] at hr'
  cases hr'
  obtain ⟨-, -, hset, t, -, -, hres⟩ := Resolve.fragment_ok hfr
  rw [← hset] at htype
  exact agrees_of_resolves hc acyclic hres htype (plain.fragment spelled hf) (ih r hr)

end

/-! ## Sets that belong together -/

/-- The directive says, by a truth value, that its selection is left out. -/
def Language.Directive.rulesOut (d : Directive) : Bool :=
  match d.arguments.find? (·.name == "if") with
  | some ⟨_, .bool b, _⟩ => (d.name == "include" && !b) || (d.name == "skip" && b)
  | _ => false

mutual

/-- The sub-selections of the fields in a written selection, inside inline fragments too, unless a truth value rules them
out. -/
def Language.Selection.subselections : Language.Selection → List (Option (List Language.Selection))
  | .field _ _ _ ds sub => if ds.any (·.rulesOut) then [] else [sub]
  | .spread _ _ => []
  | .inline _ ds sub => if ds.any (·.rulesOut) then [] else Language.allSubselections sub

/-- The sub-selections of the fields in written selections, in order. -/
def Language.allSubselections : List Language.Selection → List (Option (List Language.Selection))
  | [] => []
  | x :: rest => x.subselections ++ Language.allSubselections rest

end

mutual

/-- The sub-selections of the fields in a selection, inside type conditions and guards too. -/
def Selection.fieldSets : Selection → List (Option SelectionSet)
  | .field f => [f.selectionSet]
  | .typeCondition _ ⟨_, sels⟩ => allFieldSets sels
  | .spread _ => []
  | .guarded _ _ ⟨_, sels⟩ => allFieldSets sels

/-- The sub-selections of the fields in selections, in order. -/
def allFieldSets : List Selection → List (Option SelectionSet)
  | [] => []
  | x :: rest => x.fieldSets ++ allFieldSets rest

end

/-- Written selections and a set of the context belong together: those of an operation or fragment, and those of a field in
such selections with those of the field at the same place in the set. -/
inductive Together (d : Language.Document) (c : Context) : List Language.Selection → SelectionSet → Prop where
  | operation {name : String} {o : Language.OperationDefinition} {r : Operation} :
      Language.operation? name d = some o → c.operations.get? name = some r → Together d c o.selections r.set
  | fragment {name : String} {f : Language.FragmentDefinition} {r : Fragment} :
      Language.fragment? name d = some f → c.fragments.get? name = some r → Together d c f.selections r.set
  | field {xs sub : List Language.Selection} {set inner : SelectionSet} {i : Nat} :
      Together d c xs set → (Language.allSubselections xs)[i]? = some (some sub) →
      (allFieldSets set.selections)[i]? = some (some inner) → Together d c sub inner

/-- The literal that decides a condition is its first argument `if`. -/
theorem Resolve.conditionValue_ok {d : Language.Directive} {l : Language.Literal} (h : conditionValue d = .ok l) :
    ∃ a, d.arguments.find? (·.name == "if") = some a ∧ a.value = l := by
  unfold conditionValue at h
  split at h
  · cases h
  · split at h
    · cases h
      exact ⟨_, ‹_›, rfl⟩
    · cases h

/-- A selection is ruled out exactly if resolving drops it. -/
theorem Language.any_rulesOut {ds : List Language.Directive} :
    ∀ {r : Option (List Resolve.Guard)}, Resolve.guards ds = .ok r → ds.any (·.rulesOut) = r.isNone := by
  induction ds with
  | nil =>
    intro r h
    cases h
    rfl
  | cons d rest ih =>
    intro r h
    rw [Resolve.guards] at h
    rw [List.any_cons]
    by_cases hd : (d.name == "include" || d.name == "skip") = true
    · rw [if_pos hd] at h
      obtain ⟨l, hl, h⟩ := bind_eq_ok.mp h
      obtain ⟨⟨n, l', left⟩, ha, hal⟩ := Resolve.conditionValue_ok hl
      cases hal
      cases l' with
      | var name =>
        obtain ⟨r', hr', h⟩ := bind_eq_ok.mp h
        cases pure_eq_ok.mp h
        have hout : d.rulesOut = false := by simp [Directive.rulesOut, ha]
        rw [hout, ih hr', Bool.false_or, Option.isNone_map]
      | bool b =>
        have hout : d.rulesOut = (b == (d.name == "skip")) := by
          rcases (Bool.or_eq_true_iff.mp hd) with hd | hd <;> cases b <;>
            simp [Directive.rulesOut, ha, beq_iff_eq.mp hd]
        by_cases hb : (b == (d.name == "skip")) = true
        · simp only [hb, if_true] at h
          cases pure_eq_ok.mp h
          rw [hout, hb]
          rfl
        · simp only [hb, Bool.false_eq_true, if_false] at h
          rw [hout, ih h]
          simp [hb]
      | _ =>
        have hout : d.rulesOut = false := by simp [Directive.rulesOut, ha]
        rw [hout, ih h, Bool.false_or]
    · rw [if_neg hd] at h
      have hout : d.rulesOut = false := by
        have hnames := Bool.or_eq_false_iff.mp (Bool.not_eq_true _ ▸ hd)
        unfold Directive.rulesOut
        split <;> simp [hnames.1, hnames.2]
      rw [hout, ih h, Bool.false_or]

theorem allFieldSets_append (a b : List Selection) : allFieldSets (a ++ b) = allFieldSets a ++ allFieldSets b := by
  induction a with
  | nil => rfl
  | cons x rest ih => simp [allFieldSets, ih]

/-- Guards around selections change nothing of the fields in them. -/
@[simp] theorem allFieldSets_guardAll (possible : List String) (gs : List Resolve.Guard) (sels : List Selection) :
    allFieldSets (Resolve.guardAll possible gs sels) = allFieldSets sels := by
  induction gs with
  | nil => rfl
  | cons g gs ih => simpa [Resolve.guardAll, allFieldSets, Selection.fieldSets] using ih

section
variable {s : Schema} {options : Options} {d : Language.Document} {c : Context} {xs : List Language.Selection}

/-- Sub-selections of a written field become the set of a resolved one, unless that has none. -/
def SubResolves (s : Schema) (sub : Option (List Language.Selection)) (set : Option SelectionSet) : Prop :=
  ∀ inner, set = some inner → ∃ written t, sub = some written ∧
    Resolve.Resolves s t inner.possibleTypes written inner.selections

/-- The fields in written selections and those in what they become stand at the same places, and the sub-selections at a place
become the set at that place. -/
theorem subselections_resolve {parent : Schema.TypeDef} {possible : List String} {sels : List Selection}
    (h : Resolve.Resolves s parent possible xs sels) :
    List.Forall₂ (SubResolves s) (Language.allSubselections xs) (allFieldSets sels) := by
  induction h with
  | nil => exact .nil
  | @dropped _ _ x rest _ hg _ ih =>
    have hout := Language.any_rulesOut hg
    have hx : x.subselections = [] := by
      cases x <;> simp_all [Language.Selection.subselections, Language.Selection.directives]
    rw [Language.allSubselections, hx]
    exact ih
  | leaf hg _ _ _ _ ih =>
    rw [Language.allSubselections, allFieldSets_append, allFieldSets_guardAll]
    refine List.rel_append ?_ ih
    simp only [Language.Selection.subselections, Language.any_rulesOut hg]
    exact .cons (fun _ h => by cases h) .nil
  | composite hg _ _ hsub _ _ _ ih =>
    rw [Language.allSubselections, allFieldSets_append, allFieldSets_guardAll]
    refine List.rel_append ?_ ih
    simp only [Language.Selection.subselections, Language.any_rulesOut hg]
    refine .cons (fun inner h => ?_) .nil
    cases h
    exact ⟨_, _, rfl, hsub⟩
  | spread _ _ ih =>
    rw [Language.allSubselections, allFieldSets_append, allFieldSets_guardAll]
    exact ih
  | splice hg _ _ ihi ih =>
    rw [Language.allSubselections, allFieldSets_append, allFieldSets_guardAll]
    refine List.rel_append ?_ ih
    simpa [Language.Selection.subselections, Language.any_rulesOut hg] using ihi
  | narrow hg _ _ _ ihi ih =>
    rw [Language.allSubselections, allFieldSets_append, allFieldSets_guardAll]
    refine List.rel_append ?_ ih
    simpa [Language.Selection.subselections, Language.any_rulesOut hg, allFieldSets, Selection.fieldSets] using ihi

/-- Sub-selections at a place of a resolved set stand at that place of the written one, and become them. -/
theorem subselection_at {parent : Schema.TypeDef} {possible : List String} {sels : List Selection} {inner : SelectionSet}
    {i : Nat} (h : Resolve.Resolves s parent possible xs sels) (hi : (allFieldSets sels)[i]? = some (some inner)) :
    ∃ written t, (Language.allSubselections xs)[i]? = some (some written) ∧
      Resolve.Resolves s t inner.possibleTypes written inner.selections := by
  obtain ⟨hlen, hall⟩ := List.forall₂_iff_get.mp (subselections_resolve h)
  obtain ⟨hlt, hget⟩ := List.getElem?_eq_some_iff.mp hi
  obtain ⟨written, t, hw, hr⟩ := hall i (hlen ▸ hlt) hlt inner hget
  exact ⟨written, t, List.getElem?_eq_some_iff.mpr ⟨hlen ▸ hlt, hw⟩, hr⟩

/-- The sub-selections of a field can be executed like the selections it stands in. -/
theorem Language.AllExecutable.subselections {sub : List Language.Selection} :
    AllExecutable xs → some sub ∈ allSubselections xs → AllExecutable sub := by
  induction xs using Language.selections_induction with
  | nil => exact fun _ h => by simp [allSubselections] at h
  | field label name args ds inner rest _ ih =>
    intro hx h
    rcases List.mem_append.mp h with h | h
    · simp only [Selection.subselections] at h
      split at h
      · simp at h
      · cases List.mem_singleton.mp h
        exact hx.field
    · exact ih hx.tail h
  | spread name ds rest ih =>
    intro hx h
    exact ih hx.tail h
  | inline condition ds inner rest ihi ih =>
    intro hx h
    rcases List.mem_append.mp h with h | h
    · simp only [Selection.subselections] at h
      split at h
      · simp at h
      · exact ihi hx.inline h
    · exact ih hx.tail h

/-- Written selections and a set that belong together: the ones can be executed, and become the others. -/
theorem Together.resolves (hc : Context.ofDocument s options d = .ok c) (plain : Language.PlainDocument d)
    (spelled : Language.WellSpelled d) {set : SelectionSet} (h : Together d c xs set) :
    Language.AllExecutable xs ∧ ∃ parent, Resolve.Resolves s parent set.possibleTypes xs set.selections := by
  induction h with
  | operation ho hr =>
    obtain ⟨o', ho', hor⟩ := Context.operation_of_ofDocument hc hr
    rw [ho] at ho'
    cases ho'
    obtain ⟨-, root, -, hres⟩ := Resolve.operation_ok hor
    exact ⟨plain.operation spelled ho, root, hres⟩
  | fragment hf hr =>
    obtain ⟨f', hf', hfr⟩ := Context.fragment_of_ofDocument hc hr
    rw [hf] at hf'
    cases hf'
    obtain ⟨-, -, -, t, -, -, hres⟩ := Resolve.fragment_ok hfr
    exact ⟨plain.fragment spelled hf, t, hres⟩
  | field _ hw hi ih =>
    obtain ⟨hx, parent, hres⟩ := ih
    obtain ⟨written, t, hw', hsub⟩ := subselection_at hres hi
    rw [hw] at hw'
    cases hw'
    exact ⟨hx.subselections (List.mem_of_getElem? hw), t, hsub⟩

end

/-- Resolving keeps execution. Take a document that is resolved into a context with acyclic spreads, whose selections have at
most one condition of each kind, decided by a variable or a truth value, and arguments with well-spelled numerals (those of a
parsed document are, by `parse_wellSpelled`, also with `__typename` inserted). Take selections of it and the set of the context
that belongs to them. Then, for every object type that is possible in the set and all values of the variables, collecting
fields from the document and executing the set both come to an end and give the same fields of a response: the same keys in
the same order, each with the name of its first field and the values that the arguments written there denote. And every set of
a field in the set belongs to the sub-selections of the document at the same place, so that this holds below it too. -/
theorem execution_of_resolved (s : Schema) (options : Options) (d : Language.Document) (c : Context)
    (resolved : Context.ofDocument s options d = .ok c) (plain : Language.PlainDocument d) (spelled : Language.WellSpelled d)
    (acyclic : c.Acyclic) (xs : List Language.Selection) (set : SelectionSet) (together : Together d c xs set) (type : String)
    (possible : type ∈ set.possibleTypes) (values : String → Bool) :
    (∃ visited fields, Collects s d values type [] xs visited fields) ∧
    (∃ os, c.Walks (.executing values type) set.selections os) ∧
    (∀ visited fields os, Collects s d values type [] xs visited fields →
      c.Walks (.executing values type) set.selections os → firstFields fields = firstFields (os.map Occurrence.response)) ∧
    ∀ (i : Nat) (inner : SelectionSet), (allFieldSets set.selections)[i]? = some (some inner) →
      ∃ sub, (Language.allSubselections xs)[i]? = some (some sub) ∧ Together d c sub inner := by
  obtain ⟨hx, parent, hres⟩ := together.resolves resolved plain spelled
  obtain ⟨os, hos⟩ := acyclic.exists_walks (.executing values type) set.selections
  have hagrees : Agrees s d c values type xs set.selections :=
    agrees_of_resolves resolved acyclic hres possible hx fun name _ => fragmentAgrees resolved acyclic plain spelled name
  obtain ⟨visited, fields, hcol, hfirst, -⟩ := hagrees os hos [] [] (by simp)
  refine ⟨⟨visited, fields, hcol⟩, ⟨os, hos⟩, ?_, ?_⟩
  · intro visited' fields' os' hcol' hos'
    rw [(hcol'.unique hcol).2, hos'.unique hos]
    exact hfirst
  · intro i inner hi
    obtain ⟨sub, t, hsub, -⟩ := subselection_at hres hi
    exact ⟨sub, hsub, .field together hsub hi⟩

/-- Searches that find books and films, each of them ranked by arguments. -/
def searchSchema : Schema where
  types :=
    let rank : Schema.FieldDef :=
      ⟨"rank", none,
        [⟨"by", none, .named "Float" false, none, false⟩, ⟨"within", none, .named "Int" false, none, false⟩,
         ⟨"weights", none, .list (.named "Float" false) false, none, false⟩,
         ⟨"scale", none, .named "Scale" false, none, false⟩], .named "Float" false, false⟩
    [⟨"String", none, .scalar⟩, ⟨"Int", none, .scalar⟩, ⟨"Float", none, .scalar⟩,
     ⟨"Scale", none, .inputObject [⟨"unit", none, .named "String" false, none, false⟩,
       ⟨"label", none, .named "String" false, none, false⟩] false⟩,
     ⟨"Query", none, .object [] [⟨"search", none, [], .named "Result" false, false⟩]⟩,
     ⟨"Book", none, .object [] [rank]⟩, ⟨"Film", none, .object [] [rank]⟩, ⟨"Result", none, .union ["Book", "Film"]⟩]
  query := some "Query"
  mutation := none
  subscription := none
  directives := []

/-- What is asked of a result: a fragment, twice, and a rank of books with numbers. -/
def searchSelections : List Language.Selection :=
  [.spread "Ranked" [],
   .inline (some "Book") []
     [.field (some "near") "rank" [⟨"by", .float "-2.5", 0⟩, ⟨"within", .int "-12", 0⟩]
       [⟨"skip", [⟨"if", .var "far", 0⟩]⟩] none],
   .spread "Ranked" []]

/-- A search. Its fragment ranks books by a variable, a list and an object that names a field twice. -/
def searchDocument : Language.Document :=
  [.operation ⟨none, .query, some "Search", [], [], [.field none "search" [] [] (some searchSelections)]⟩,
   .fragment ⟨none, "Ranked", "Result", [],
     [.inline (some "Book") []
       [.field none "rank"
         [⟨"by", .var "distance", 0⟩, ⟨"weights", .list [.float "0.5", .int "7", .null, .var "weight"], 0⟩,
          ⟨"scale", .object [("unit", .enum "MILES"), ("label", .string "far" false), ("unit", .enum "METRES")], 0⟩]
         [] none]]⟩]

/-- The context of the search. -/
def searchContext : Context := (Context.ofDocument searchSchema default searchDocument).toOption.getD default

/-- The set of what is asked of a result. -/
def searchAsked : SelectionSet :=
  match searchContext.operations.values.flatMap fun o => o.set.selections with
  | [Selection.field f] => f.selectionSet.getD default
  | _ => default

/-- The ranks of a book, with the values of their arguments. -/
def searchFields : List ResponseField :=
  [⟨"rank", "rank",
     [⟨"by", .var "distance"⟩, ⟨"weights", .list [.float (.finite false (2 ^ 52) (-53)), .int 7, .null, .var "weight"]⟩,
      ⟨"scale", .keyed [("unit", .string "METRES"), ("label", .string "far")]⟩]⟩,
   ⟨"near", "rank", [⟨"by", .float (.finite true (5 * 2 ^ 50) (-51))⟩, ⟨"within", .int (-12)⟩]⟩]

theorem searchContext_eq : Context.ofDocument searchSchema default searchDocument = .ok searchContext :=
  eq_ok_of_isSome (by decide +kernel)

theorem searchContext_acyclic : searchContext.Acyclic :=
  Context.acyclic_of_rank (fun _ => 0) (by decide +kernel)

theorem searchDocument_plain : Language.PlainDocument searchDocument := by
  intro x hx y hy
  simp only [searchDocument, List.mem_cons, List.not_mem_nil, or_false] at hx
  rcases hx with rfl | rfl <;>
    simp only [Language.Definition.allSelections, Language.allSelections, Language.Selection.all, searchSelections,
      List.cons_append, List.nil_append, List.append_nil, List.mem_cons, List.not_mem_nil, or_false] at hy <;>
    rcases hy with rfl | rfl | rfl | rfl | rfl <;>
    constructor <;> simp [Language.Selection.directives]

theorem searchDocument_wellSpelled : Language.WellSpelled searchDocument := by
  have hint : Decimal.SpellsInt "-12".toList (-12) :=
    .minus (@Decimal.SpellsNat.more ['1'] 1 2 (@Decimal.SpellsNat.digit 1 (by decide)) (by decide))
  have hnat : Decimal.SpellsInt "7".toList 7 := .natural (@Decimal.SpellsNat.digit 7 (by decide))
  have hnegative : Decimal.SpellsDecimal "-2.5".toList true ((2 + 5 / 10 ^ 1) * 10 ^ (0 : Int)) :=
    .minus (.mk (@Decimal.SpellsNat.digit 2 (by decide)) (.point (@Decimal.SpellsNat.digit 5 (by decide))) .none)
  have hfraction : Decimal.SpellsDecimal "0.5".toList false ((0 + 5 / 10 ^ 1) * 10 ^ (0 : Int)) :=
    .plain (.mk (@Decimal.SpellsNat.digit 0 (by decide)) (.point (@Decimal.SpellsNat.digit 5 (by decide))) .none)
  intro x hx y hy
  simp only [searchDocument, List.mem_cons, List.not_mem_nil, or_false] at hx
  rcases hx with rfl | rfl <;>
    simp only [Language.Definition.allSelections, Language.allSelections, Language.Selection.all, searchSelections,
      List.cons_append, List.nil_append, List.append_nil, List.mem_cons, List.not_mem_nil, or_false] at hy
  · rcases hy with rfl | rfl | rfl | rfl | rfl
    case inr.inr.inr.inl =>
      simp only [Language.Selection.arguments, List.forall_mem_cons, List.not_mem_nil, false_imp_iff, implies_true, and_true]
      exact ⟨⟨_, _, hnegative⟩, _, hint⟩
    all_goals simp [Language.Selection.arguments]
  · rcases hy with rfl | rfl
    · simp [Language.Selection.arguments]
    · simp only [Language.Selection.arguments, List.forall_mem_cons, List.not_mem_nil, false_imp_iff, implies_true, and_true]
      exact ⟨trivial, ⟨⟨_, _, hfraction⟩, ⟨_, hnat⟩, trivial, trivial, trivial⟩, trivial, trivial, trivial, trivial⟩

/-- On books, what is asked of a result meets the rank of the fragment before and after the other one. -/
theorem searchAsked_walks : ∃ os, searchContext.Walks (.executing (fun _ => false) "Book") searchAsked.selections os ∧
    firstFields (os.map Occurrence.response) = searchFields := by
  refine ⟨_, .enterSpread rfl (by decide) (.enterCondition (by decide) (.field _ .nil) .nil)
    (.enterCondition (by decide) (.enterGuard (by decide) (.field _ .nil) .nil) (.enterSpread rfl (by decide)
      (.enterCondition (by decide) (.field _ .nil) .nil) .nil)), ?_⟩
  rfl

theorem execution_of_resolved_search :
    Context.ofDocument searchSchema default searchDocument = .ok searchContext ∧ searchContext.Acyclic ∧
      Language.PlainDocument searchDocument ∧ Language.WellSpelled searchDocument ∧
      Together searchDocument searchContext searchSelections searchAsked ∧ "Book" ∈ searchAsked.possibleTypes ∧
      (∃ visited fields, Collects searchSchema searchDocument (fun _ => false) "Book" [] searchSelections visited fields) ∧
      (∃ os, searchContext.Walks (.executing (fun _ => false) "Book") searchAsked.selections os ∧
        firstFields (os.map Occurrence.response) = searchFields) ∧
      ∀ visited fields, Collects searchSchema searchDocument (fun _ => false) "Book" [] searchSelections visited fields →
        firstFields fields = searchFields := by
  have together : Together searchDocument searchContext searchSelections searchAsked :=
    .field (@Together.operation searchDocument searchContext "Search" _ _ rfl rfl) (i := 0) rfl rfl
  have possible : "Book" ∈ searchAsked.possibleTypes := by decide
  obtain ⟨hcollects, -, hsame, -⟩ := execution_of_resolved searchSchema default searchDocument searchContext
    searchContext_eq searchDocument_plain searchDocument_wellSpelled searchContext_acyclic searchSelections searchAsked
    together "Book" possible fun _ => false
  obtain ⟨os, hwalks, hfields⟩ := searchAsked_walks
  exact ⟨searchContext_eq, searchContext_acyclic, searchDocument_plain, searchDocument_wellSpelled, together, possible,
    hcollects, ⟨os, hwalks, hfields⟩, fun visited fields hcol => (hsame visited fields os hcol hwalks).trans hfields⟩

end TypedOperations
