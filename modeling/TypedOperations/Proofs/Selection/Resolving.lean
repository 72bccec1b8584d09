import TypedOperations.Language.Sites
import TypedOperations.Proofs.Outcome
import TypedOperations.Proofs.Selection.Walk

/-!
# What resolving does

The selections of a document, case by case, with the selections that they become: a literal condition drops a selection, an
inline fragment without a type is spliced in, one with a type narrows the possible types around it, and the guards of a
selection stand around what it becomes. `Resolves` says this as a relation, and whatever `selections` gives is so related
(`resolves_of_ok`). Later proofs go by the cases of the relation.
-/

namespace TypedOperations

/-- Induction on written selections: a list is empty or starts with a field, a spread or an inline fragment. -/
theorem Language.selections_induction {motive : List Language.Selection → Prop} (nil : motive [])
    (field : ∀ label name args ds sub rest, (∀ xs, sub = some xs → motive xs) → motive rest →
      motive (.field label name args ds sub :: rest))
    (spread : ∀ name ds rest, motive rest → motive (.spread name ds :: rest))
    (inline : ∀ condition ds sub rest, motive sub → motive rest → motive (.inline condition ds sub :: rest))
    (xs : List Language.Selection) : motive xs := by
  refine @Language.Selection.rec_2 (fun x => ∀ rest, motive rest → motive (x :: rest))
    (fun o => ∀ xs, o = some xs → motive xs) motive ?_ ?_ ?_ ?_ ?_ nil ?_ xs
  · intro label name args ds sub hsub rest hr
    exact field label name args ds sub rest hsub hr
  · intro name ds rest hr
    exact spread name ds rest hr
  · intro condition ds sub hsub rest hr
    exact inline condition ds sub rest hsub hr
  · intro xs h
    cases h
  · intro sub hsub xs h
    cases h
    exact hsub
  · intro x rest hx hr
    exact hx rest hr

namespace Resolve

/-- Written selections on a parent type, within a set of possible types, become these selections. -/
inductive Resolves (s : Schema) : Schema.TypeDef → List String → List Language.Selection → List Selection → Prop where
  | nil {parent : Schema.TypeDef} {possible : List String} : Resolves s parent possible [] []
  | dropped {parent : Schema.TypeDef} {possible : List String} {x : Language.Selection} {rest : List Language.Selection}
      {out : List Selection} :
      guards x.directives = .ok none → Resolves s parent possible rest out → Resolves s parent possible (x :: rest) out
  | leaf {parent : Schema.TypeDef} {possible : List String} {label : Option String} {name : String}
      {args : List Language.Argument} {ds : List Language.Directive} {sub : Option (List Language.Selection)}
      {rest : List Language.Selection} {gs : List Guard} {f : Schema.FieldDef} {values : List Argument}
      {out : List Selection} :
      guards ds = .ok (some gs) → s.field? parent name = some f → (s.kindOf f.type.base).isComposite = false →
      arguments args = .ok values → Resolves s parent possible rest out →
        Resolves s parent possible (.field label name args ds sub :: rest)
          (guardAll possible gs [makeField s f label values none] ++ out)
  | composite {parent t : Schema.TypeDef} {possible : List String} {label : Option String} {name : String}
      {args : List Language.Argument} {ds : List Language.Directive} {sub rest : List Language.Selection}
      {gs : List Guard} {f : Schema.FieldDef} {values : List Argument} {inner out : List Selection} :
      guards ds = .ok (some gs) → s.field? parent name = some f → compositeType s f.type.base = .ok t →
      Resolves s t (s.possibleTypes f.type.base) sub inner → arguments args = .ok values →
      Resolves s parent possible rest out →
        Resolves s parent possible (.field label name args ds (some sub) :: rest)
          (guardAll possible gs [makeField s f label values (some ⟨s.possibleTypes f.type.base, inner⟩)] ++ out)
  | spread {parent : Schema.TypeDef} {possible : List String} {name : String} {ds : List Language.Directive}
      {rest : List Language.Selection} {gs : List Guard} {out : List Selection} :
      guards ds = .ok (some gs) → Resolves s parent possible rest out →
        Resolves s parent possible (.spread name ds :: rest) (guardAll possible gs [.spread name] ++ out)
  | splice {parent : Schema.TypeDef} {possible : List String} {ds : List Language.Directive}
      {sub rest : List Language.Selection} {gs : List Guard} {inner out : List Selection} :
      guards ds = .ok (some gs) → Resolves s parent possible sub inner → Resolves s parent possible rest out →
        Resolves s parent possible (.inline none ds sub :: rest) (guardAll possible gs inner ++ out)
  | narrow {parent t : Schema.TypeDef} {possible : List String} {condition : String} {ds : List Language.Directive}
      {sub rest : List Language.Selection} {gs : List Guard} {inner out : List Selection} :
      guards ds = .ok (some gs) → compositeType s condition = .ok t →
      Resolves s t (possible.filter (s.possibleTypes condition).contains) sub inner →
      Resolves s parent possible rest out →
        Resolves s parent possible (.inline (some condition) ds sub :: rest)
          (guardAll possible gs
            [.typeCondition t.ref ⟨possible.filter (s.possibleTypes condition).contains, inner⟩] ++ out)

/-! ## Lookups -/

/-- A composite type that is found has the name it was looked up by. -/
theorem compositeType_ok {s : Schema} {name : String} {t : Schema.TypeDef} (h : compositeType s name = .ok t) :
    s.type? name = some t ∧ t.name = name ∧ t.kind.isComposite = true := by
  unfold compositeType at h
  split at h
  · rename_i t' ht
    split at h
    · rename_i hk
      cases h
      exact ⟨ht, by simpa using List.find?_some ht, hk⟩
    · cases h
  · cases h

/-- A field that is found is the one that the schema has. -/
theorem fieldOf_ok {s : Schema} {parent : Schema.TypeDef} {name : String} {f : Schema.FieldDef}
    (h : fieldOf s parent name = .ok f) : s.field? parent name = some f := by
  unfold fieldOf at h
  split at h
  · cases h
    assumption
  · cases h

/-- A field that the schema has has the name it was looked up by. -/
theorem name_of_field? {s : Schema} {parent : Schema.TypeDef} {name : String} {f : Schema.FieldDef}
    (h : s.field? parent name = some f) : f.name = name := by
  unfold Schema.field? at h
  split at h
  · rename_i hn
    cases h
    exact (beq_iff_eq.mp hn).symm
  · split at h
    · rename_i hn
      cases h
      exact (beq_iff_eq.mp (Bool.and_eq_true_iff.mp hn).1).symm
    · split at h
      · rename_i hn
        cases h
        exact (beq_iff_eq.mp (Bool.and_eq_true_iff.mp hn).1).symm
      · simpa using List.find?_some h

/-! ## Resolving is so related -/

variable {s : Schema} {parent : Schema.TypeDef} {possible : List String} {rest : List Language.Selection}
  {first out : List Selection}

/-- The selections of a field, followed by those of the selections after it. -/
theorem resolves_field {label : Option String} {name : String} {args : List Language.Argument}
    {ds : List Language.Directive} {sub : Option (List Language.Selection)}
    (hsub : ∀ xs, sub = some xs → ∀ {t ts inner}, selections s t ts xs = .ok inner → Resolves s t ts xs inner)
    (h : selection s parent possible (.field label name args ds sub) = .ok first) (hrest : Resolves s parent possible rest out) :
    Resolves s parent possible (.field label name args ds sub :: rest) (first ++ out) := by
  rw [selection, bind_eq_ok] at h
  obtain ⟨r, hg, h⟩ := h
  cases r with
  | none =>
    cases pure_eq_ok.mp h
    exact .dropped hg hrest
  | some gs =>
    obtain ⟨f, hf, h⟩ := bind_eq_ok.mp h
    have hfield := fieldOf_ok hf
    -- a base type that is not composite, declared or not, leaves the field without sub-selections
    have leaf : (s.kindOf f.type.base).isComposite = false →
        (do let args ← arguments args
            return guardAll possible gs [makeField s f label args none]) = .ok first →
        Resolves s parent possible (.field label name args ds sub :: rest) (first ++ out) := by
      intro hk h
      obtain ⟨values, ha, h⟩ := bind_eq_ok.mp h
      cases pure_eq_ok.mp h
      exact .leaf hg hfield hk ha hrest
    cases ht : s.type? f.type.base with
    | none =>
      simp only [ht] at h
      exact leaf (by simp [Schema.kindOf, ht, TypeKind.isComposite]) h
    | some t =>
      simp only [ht] at h
      cases hk : t.kind.isComposite with
      | false =>
        simp only [hk, Bool.false_eq_true, if_false] at h
        exact leaf (by simp [Schema.kindOf, ht, hk]) h
      | true =>
        simp only [hk, if_true] at h
        cases sub with
        | none => cases h
        | some sub =>
          obtain ⟨inner, hi, h⟩ := bind_eq_ok.mp h
          obtain ⟨values, ha, h⟩ := bind_eq_ok.mp h
          cases pure_eq_ok.mp h
          exact .composite hg hfield (by simp [compositeType, ht, hk]) (hsub sub rfl hi) ha hrest

/-- The selections of an inline fragment, followed by those of the selections after it. -/
theorem resolves_inline {condition : Option String} {ds : List Language.Directive} {sub : List Language.Selection}
    (hsub : ∀ {t ts inner}, selections s t ts sub = .ok inner → Resolves s t ts sub inner)
    (h : selection s parent possible (.inline condition ds sub) = .ok first) (hrest : Resolves s parent possible rest out) :
    Resolves s parent possible (.inline condition ds sub :: rest) (first ++ out) := by
  rw [selection, bind_eq_ok] at h
  obtain ⟨r, hg, h⟩ := h
  cases r with
  | none =>
    cases pure_eq_ok.mp h
    exact .dropped hg hrest
  | some gs =>
    cases condition with
    | none =>
      obtain ⟨inner, hi, h⟩ := bind_eq_ok.mp h
      cases pure_eq_ok.mp h
      exact .splice hg (hsub hi) hrest
    | some name =>
      obtain ⟨t, ht, h⟩ := bind_eq_ok.mp h
      obtain ⟨inner, hi, h⟩ := bind_eq_ok.mp h
      cases pure_eq_ok.mp h
      exact .narrow hg ht (hsub hi) hrest

/-- What resolving gives is what the written selections become. -/
theorem resolves_of_ok {xs : List Language.Selection} :
    ∀ {parent possible out}, selections s parent possible xs = .ok out → Resolves s parent possible xs out := by
  induction xs using Language.selections_induction with
  | nil =>
    intro parent possible out h
    cases h
    exact .nil
  | field label name args ds sub rest ihsub ih =>
    intro parent possible out h
    obtain ⟨first, hx, h⟩ := bind_eq_ok.mp h
    obtain ⟨others, hrest, h⟩ := bind_eq_ok.mp h
    cases pure_eq_ok.mp h
    exact resolves_field ihsub hx (ih hrest)
  | spread name ds rest ih =>
    intro parent possible out h
    obtain ⟨first, hx, h⟩ := bind_eq_ok.mp h
    obtain ⟨others, hrest, h⟩ := bind_eq_ok.mp h
    cases pure_eq_ok.mp h
    obtain ⟨r, hg, hx⟩ := bind_eq_ok.mp hx
    cases r with
    | none =>
      cases pure_eq_ok.mp hx
      exact .dropped hg (ih hrest)
    | some gs =>
      cases pure_eq_ok.mp hx
      exact .spread hg (ih hrest)
  | inline condition ds sub rest ihsub ih =>
    intro parent possible out h
    obtain ⟨first, hx, h⟩ := bind_eq_ok.mp h
    obtain ⟨others, hrest, h⟩ := bind_eq_ok.mp h
    cases pure_eq_ok.mp h
    exact resolves_inline ihsub hx (ih hrest)

/-! ## Operations and fragments -/

/-- A resolved operation holds what its selections become on its root type. -/
theorem operation_ok {o : Language.OperationDefinition} {r : Operation} (h : operation s o = .ok r) :
    o.name = some r.name ∧ ∃ root, r.set.possibleTypes = s.possibleTypes root.name ∧
      Resolves s root r.set.possibleTypes o.selections r.set.selections := by
  unfold operation at h
  split at h
  · cases h
  · rename_i name hname
    split at h
    · cases h
    · rename_i root hroot
      obtain ⟨vs, -, h⟩ := bind_eq_ok.mp h
      obtain ⟨set, hset, h⟩ := bind_eq_ok.mp h
      obtain ⟨sels, hsels, hset⟩ := bind_eq_ok.mp hset
      cases pure_eq_ok.mp hset
      cases pure_eq_ok.mp h
      exact ⟨hname, root, rfl, resolves_of_ok hsels⟩

/-- A resolved fragment holds what its selections become on its type. -/
theorem fragment_ok {f : Language.FragmentDefinition} {r : Fragment} (h : fragment s f = .ok r) :
    r.name = f.name ∧ r.possibleTypes = s.possibleTypes f.condition ∧ r.set.possibleTypes = r.possibleTypes ∧
      ∃ t, compositeType s f.condition = .ok t ∧ r.condition = t.ref ∧
        Resolves s t r.set.possibleTypes f.selections r.set.selections := by
  obtain ⟨t, ht, h⟩ := bind_eq_ok.mp h
  obtain ⟨set, hset, h⟩ := bind_eq_ok.mp h
  obtain ⟨sels, hsels, hset⟩ := bind_eq_ok.mp hset
  cases pure_eq_ok.mp hset
  cases pure_eq_ok.mp h
  obtain ⟨-, hname, -⟩ := compositeType_ok ht
  exact ⟨rfl, by simp only [hname], rfl, t, ht, rfl, resolves_of_ok hsels⟩

end Resolve

/-- The operation of a name in a document; of several the one that stands last. -/
def Language.operation? (name : String) : Language.Document → Option Language.OperationDefinition
  | [] => none
  | .operation o :: rest => (operation? name rest).or (if o.name = some name then some o else none)
  | _ :: rest => operation? name rest

/-- The fragment of a name in a document; of several the one that stands last. -/
def Language.fragment? (name : String) : Language.Document → Option Language.FragmentDefinition
  | [] => none
  | .fragment f :: rest => (fragment? name rest).or (if f.name = name then some f else none)
  | _ :: rest => fragment? name rest

/-- What is looked up in the resolved entries is what the written definition, if there is one, resolves to. -/
def LooksUp {α β : Type} (resolve : α → Except ResolveError β) (written : Option α) (before after : Option β) : Prop :=
  match written with
  | some a => ∃ b, resolve a = .ok b ∧ after = some b
  | none => after = before

/-- A later definition decides what is looked up; the one before it counts if there is no later one. -/
theorem LooksUp.or {α β : Type} {resolve : α → Except ResolveError β} {later earlier : Option α}
    {before middle after : Option β} (h : LooksUp resolve later middle after) (h' : LooksUp resolve earlier before middle) :
    LooksUp resolve (later.or earlier) before after := by
  cases later with
  | some a => exact h
  | none =>
    cases h
    exact h'

/-- After more definitions a name is looked up as what its last definition among them resolves to, or as before. -/
theorem looksUp_of_foldlM {s : Schema} {d : Language.Document} {c₀ c : Context} (name : String)
    (h : d.foldlM (Resolve.addDefinition s) c₀ = .ok c) :
    LooksUp (Resolve.operation s) (Language.operation? name d) (c₀.operations.get? name) (c.operations.get? name) ∧
      LooksUp (Resolve.fragment s) (Language.fragment? name d) (c₀.fragments.get? name) (c.fragments.get? name) := by
  induction d generalizing c₀ with
  | nil =>
    cases h
    exact ⟨rfl, rfl⟩
  | cons x rest ih =>
    rw [List.foldlM_cons] at h
    obtain ⟨c₁, hx, h⟩ := bind_eq_ok.mp h
    obtain ⟨ho, hf⟩ := ih h
    cases x with
    | operation o =>
      obtain ⟨r, hr, hx⟩ := bind_eq_ok.mp hx
      cases pure_eq_ok.mp hx
      refine ⟨ho.or ?_, hf⟩
      rw [(Resolve.operation_ok hr).1, Entries.get?_put]
      by_cases hn : r.name = name
      · simp [LooksUp, hn, hr]
      · simp [LooksUp, hn]
    | fragment f =>
      obtain ⟨r, hr, hx⟩ := bind_eq_ok.mp hx
      cases pure_eq_ok.mp hx
      refine ⟨ho, hf.or ?_⟩
      rw [← (Resolve.fragment_ok hr).1, Entries.get?_put]
      by_cases hn : r.name = name
      · simp [LooksUp, hn, hr]
      · simp [LooksUp, hn]
    | _ =>
      cases hx
      exact ⟨ho, hf⟩

/-- The operations of a resolved document are what its operations resolve to. -/
theorem Context.operation_of_ofDocument {s : Schema} {options : Options} {d : Language.Document} {c : Context}
    (h : Context.ofDocument s options d = .ok c) {name : String} {r : Operation} (hr : c.operations.get? name = some r) :
    ∃ o, Language.operation? name d = some o ∧ Resolve.operation s o = .ok r := by
  have hl := (looksUp_of_foldlM name h).1
  rw [hr] at hl
  cases ho : Language.operation? name d with
  | none => simp [LooksUp, ho, Entries.get?] at hl
  | some o =>
    rw [ho] at hl
    obtain ⟨r', hr', he⟩ := hl
    cases he
    exact ⟨o, rfl, hr'⟩

/-- The fragments of a resolved document are what its fragments resolve to. -/
theorem Context.fragment_of_ofDocument {s : Schema} {options : Options} {d : Language.Document} {c : Context}
    (h : Context.ofDocument s options d = .ok c) {name : String} {r : Fragment} (hr : c.fragments.get? name = some r) :
    ∃ f, Language.fragment? name d = some f ∧ Resolve.fragment s f = .ok r := by
  have hl := (looksUp_of_foldlM name h).2
  rw [hr] at hl
  cases hf : Language.fragment? name d with
  | none => simp [LooksUp, hf, Entries.get?] at hl
  | some f =>
    rw [hf] at hl
    obtain ⟨r', hr', he⟩ := hl
    cases he
    exact ⟨f, rfl, hr'⟩

/-- A fragment of a document is found in the resolved one. -/
theorem Context.get?_of_fragment? {s : Schema} {options : Options} {d : Language.Document} {c : Context}
    (h : Context.ofDocument s options d = .ok c) {name : String} {f : Language.FragmentDefinition}
    (hf : Language.fragment? name d = some f) : ∃ r, c.fragments.get? name = some r ∧ Resolve.fragment s f = .ok r := by
  have hl := (looksUp_of_foldlM name h).2
  rw [hf] at hl
  obtain ⟨r, hr, he⟩ := hl
  exact ⟨r, he, hr⟩

/-! ## Guards around selections -/

open Resolve (Guard guardAll)

/-- Guards around selections add no spreads. -/
@[simp] theorem allSpreadNames_guardAll (possible : List String) (gs : List Guard) (sels : List Selection) :
    allSpreadNames (guardAll possible gs sels) = allSpreadNames sels := by
  induction gs with
  | nil => rfl
  | cons g gs ih => simpa [guardAll, allSpreadNames, Selection.spreadNames] using ih

/-- An occurrence inside more guards. -/
def Occurrence.underAll (gs : List Guard) (o : Occurrence) : Occurrence := ⟨o.field, gs ++ o.guards⟩

@[simp] theorem Occurrence.underAll_key (gs : List Guard) (o : Occurrence) : (o.underAll gs).key = o.key := rfl

/-- A walk enters guarded selections if it admits all guards around them, and passes them otherwise. -/
theorem Context.Walks.of_guardAll {c : Context} {v : Visit} {possible : List String} {gs : List Guard}
    {sels : List Selection} {os : List Occurrence} (h : c.Walks v (guardAll possible gs sels) os) :
    (gs.all v.admits = true ∧ ∃ inner, c.Walks v sels inner ∧ os = inner.map (·.underAll gs)) ∨
      (gs.all v.admits = false ∧ os = []) := by
  induction gs generalizing os with
  | nil => exact Or.inl ⟨rfl, os, h, by simp [Occurrence.underAll]⟩
  | cons g gs ih =>
    simp only [guardAll, List.foldr_cons] at h
    cases h with
    | enterGuard ha hi hnil =>
      cases hnil
      rcases ih hi with ⟨hall, inner, hw, rfl⟩ | ⟨hall, rfl⟩
      · exact Or.inl ⟨by simp [ha, hall], inner, hw, by simp [Occurrence.underAll, Occurrence.under]⟩
      · exact Or.inr ⟨by simp [hall], by simp⟩
    | passGuard ha hnil =>
      cases hnil
      exact Or.inr ⟨by simp [ha], rfl⟩

/-! ## An example document -/

/-- Pets: cats and dogs, which are all named. -/
def petSchema : Schema where
  types :=
    [⟨"String", none, .scalar⟩, ⟨"Int", none, .scalar⟩, ⟨"Boolean", none, .scalar⟩,
     ⟨"Query", none, .object [] [⟨"pet", none, [], .named "Pet" false, false⟩,
       ⟨"cat", none, [], .named "Cat" false, false⟩]⟩,
     ⟨"Named", none, .interface [] [⟨"name", none, [], .named "String" false, false⟩]⟩,
     ⟨"Cat", none, .object ["Named"] [⟨"name", none, [], .named "String" false, false⟩,
       ⟨"lives", none, [], .named "Int" false, false⟩]⟩,
     ⟨"Dog", none, .object ["Named"] [⟨"name", none, [], .named "String" false, false⟩,
       ⟨"barks", none, [], .named "Boolean" false, false⟩]⟩,
     ⟨"Pet", none, .union ["Cat", "Dog"]⟩]
  query := some "Query"
  mutation := none
  subscription := none
  directives := []

/-- What is asked of a pet: a fragment, twice, and more of dogs if a variable says so. -/
def petSelections : List Language.Selection :=
  [.spread "Short" [],
   .inline (some "Dog") [⟨"include", [⟨"if", .var "loud", 0⟩]⟩] [.field none "barks" [] [] none],
   .spread "Short" []]

/-- A query for a pet. Its fragment spreads another one, on cats, after an inline fragment. -/
def petDocument : Language.Document :=
  [.operation ⟨none, .query, some "Pet", [], [], [.field none "pet" [] [] (some petSelections)]⟩,
   .fragment ⟨none, "Short", "Pet", [],
     [.inline (some "Named") [] [.field none "name" [] [] none], .spread "Lives" []]⟩,
   .fragment ⟨none, "Lives", "Cat", [],
     [.field none "lives" [] [⟨"skip", [⟨"if", .var "short", 0⟩]⟩] none, .field none "name" [] [] none]⟩]

/-- The context of the query for a pet. -/
def petContext : Context := (Context.ofDocument petSchema default petDocument).toOption.getD default

/-- The set of what is asked of a pet. -/
def petAsked : SelectionSet :=
  match petContext.operations.values.flatMap fun o => o.set.selections with
  | [Selection.field f] => f.selectionSet.getD default
  | _ => default

theorem petContext_eq : Context.ofDocument petSchema default petDocument = .ok petContext := rfl

/-- Of the fragments only the outer one spreads another. -/
theorem petContext_acyclic : petContext.Acyclic :=
  Context.acyclic_of_rank (fun name => if name = "Short" then 1 else 0) (by decide)

end TypedOperations
