import TypedOperations.Proofs.Expression.Meaning

/-!
# Values that show how they were made

Where attributes and calls give nothing but a record of what they were asked for, an expression of names, attributes and calls
has one value for each choice of values for its names: two scopes that give it the same value agree on them (`agree_of_eval`).
-/

namespace TypedOperations.Expression

/-- A value that shows how it was made. -/
inductive Thing where
  | nothing
  | flag (b : Bool)
  | list (items : List Thing)
  | element
  | global (n : Name)
  | attribute (e : Thing) (n : Name)
  | call (f : Thing) (args : List Thing)

/-- What things mean: attributes and calls are things of their own. -/
def records : Meaning Thing where
  nothing := .nothing
  list := .list
  items
    | .list vs => some vs
    | _ => none
  attributeOf v n := some (.attribute v n)
  call f vs := some (.call f vs)
  same
    | .nothing, .nothing => true
    | _, _ => false
  flag := .flag
  truth
    | .flag b => b
    | _ => true
  items_list _ := rfl
  list_ne_nothing _ := Thing.noConfusion
  same_nothing v := by cases v <;> simp
  truth_flag _ := rfl

mutual

/-- The expression has names, attributes and calls only. -/
def Expr.IsPlain : Expr → Prop
  | .hole => True
  | .name _ => True
  | .attribute e _ => e.IsPlain
  | .call f args => f.IsPlain ∧ ArePlain args
  | _ => False

/-- The expressions have names, attributes and calls only. -/
def ArePlain : List Expr → Prop
  | [] => True
  | e :: rest => e.IsPlain ∧ ArePlain rest

end

mutual

theorem bound_of_isPlain : ∀ e : Expr, e.IsPlain → e.bound = []
  | .hole, _ => rfl
  | .name _, _ => rfl
  | .attribute e _, h => bound_of_isPlain e h
  | .call f args, h => by rw [Expr.bound, bound_of_isPlain f h.1, boundAll_of_arePlain args h.2]; rfl

theorem boundAll_of_arePlain : ∀ es : List Expr, ArePlain es → boundAll es = []
  | [], _ => rfl
  | e :: rest, h => by rw [boundAll, bound_of_isPlain e h.1, boundAll_of_arePlain rest h.2]; rfl

end

/-- The scope in which every name has a value. -/
def everywhere (g : Name → Thing) : Scope Thing :=
  fun n => some (g n)

mutual

/-- A plain expression has a value wherever its names have. -/
theorem exists_eval (x : Thing) (g : Name → Thing) : ∀ e : Expr, e.IsPlain → ∃ v, records.eval (some x) e (everywhere g) = some v
  | .hole, _ => ⟨x, rfl⟩
  | .name n, _ => ⟨g n, rfl⟩
  | .attribute e n, h => by
    obtain ⟨v, hv⟩ := exists_eval x g e h
    exact ⟨.attribute v n, by rw [Meaning.eval, hv]; rfl⟩
  | .call f args, h => by
    obtain ⟨v, hv⟩ := exists_eval x g f h.1
    obtain ⟨vs, hvs⟩ := exists_evalAll x g args h.2
    exact ⟨.call v vs, by rw [Meaning.eval, hv, hvs]; rfl⟩

theorem exists_evalAll (x : Thing) (g : Name → Thing) :
    ∀ es : List Expr, ArePlain es → ∃ vs, records.evalAll (some x) es (everywhere g) = some vs
  | [], _ => ⟨[], rfl⟩
  | e :: rest, h => by
    obtain ⟨v, hv⟩ := exists_eval x g e h.1
    obtain ⟨vs, hvs⟩ := exists_evalAll x g rest h.2
    exact ⟨v :: vs, by rw [Meaning.evalAll, hv, hvs]; rfl⟩

end

mutual

/-- Scopes that give a plain expression the same value agree on its names. -/
theorem agree_of_eval (x : Thing) (g g' : Name → Thing) : ∀ e : Expr, e.IsPlain →
    records.eval (some x) e (everywhere g) = records.eval (some x) e (everywhere g') → ∀ n ∈ e.free, g n = g' n
  | .hole, _, _, _, hn => nomatch hn
  | .name m, _, heq, n, hn => by
    rw [List.mem_singleton.mp hn]
    exact Option.some.inj heq
  | .attribute e m, h, heq, n, hn => by
    obtain ⟨v, hv⟩ := exists_eval x g e h
    obtain ⟨v', hv'⟩ := exists_eval x g' e h
    rw [Meaning.eval, Meaning.eval, hv, hv'] at heq
    have hsame : v = v' := (Thing.attribute.inj (Option.some.inj heq)).1
    exact agree_of_eval x g g' e h (by rw [hv, hv', hsame]) n hn
  | .call f args, h, heq, n, hn => by
    obtain ⟨v, hv⟩ := exists_eval x g f h.1
    obtain ⟨v', hv'⟩ := exists_eval x g' f h.1
    obtain ⟨vs, hvs⟩ := exists_evalAll x g args h.2
    obtain ⟨vs', hvs'⟩ := exists_evalAll x g' args h.2
    rw [Meaning.eval, Meaning.eval, hv, hv', hvs, hvs'] at heq
    obtain ⟨hsame, hsames⟩ := Thing.call.inj (Option.some.inj heq)
    rcases List.mem_append.mp hn with hn | hn
    · exact agree_of_eval x g g' f h.1 (by rw [hv, hv', hsame]) n hn
    · exact agree_of_evalAll x g g' args h.2 (by rw [hvs, hvs', hsames]) n hn

theorem agree_of_evalAll (x : Thing) (g g' : Name → Thing) : ∀ es : List Expr, ArePlain es →
    records.evalAll (some x) es (everywhere g) = records.evalAll (some x) es (everywhere g') → ∀ n ∈ freeAll es, g n = g' n
  | [], _, _, _, hn => nomatch hn
  | e :: rest, h, heq, n, hn => by
    obtain ⟨v, hv⟩ := exists_eval x g e h.1
    obtain ⟨v', hv'⟩ := exists_eval x g' e h.1
    obtain ⟨vs, hvs⟩ := exists_evalAll x g rest h.2
    obtain ⟨vs', hvs'⟩ := exists_evalAll x g' rest h.2
    rw [Meaning.evalAll, Meaning.evalAll, hv, hv', hvs, hvs'] at heq
    obtain ⟨hsame, hsames⟩ := List.cons.inj (Option.some.inj heq)
    rcases List.mem_append.mp hn with hn | hn
    · exact agree_of_eval x g g' e h.1 (by rw [hv, hv', hsame]) n hn
    · exact agree_of_evalAll x g g' rest h.2 (by rw [hvs, hvs', hsames]) n hn

end

end TypedOperations.Expression
