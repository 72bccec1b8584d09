import Mathlib.Data.List.Forall2
import TypedOperations.Proofs.Expression.Reading

/-!
# What expressions mean

An expression has a value in a scope that gives values to names. What attributes and calls give is left open; a comprehension
takes its items from a value of the scope around it, and its body is in a scope of its own, in which the item has a name. An
expression with a name in its holes has the value that it has with the value of the name there, if the name is not one of those
that its own comprehensions give (`eval_fill`).
-/

namespace TypedOperations.Expression

/-- How values behave. -/
structure Meaning (V : Type) where
  nothing : V
  list : List V → V
  /-- What a comprehension takes from a value. -/
  items : V → Option (List V)
  attributeOf : V → Name → Option V
  call : V → List V → Option V
  same : V → V → Bool
  flag : Bool → V
  /-- Whether a test with this value holds. -/
  truth : V → Bool
  items_list : ∀ vs, items (list vs) = some vs
  list_ne_nothing : ∀ vs, list vs ≠ nothing
  same_nothing : ∀ v, same v nothing = true ↔ v = nothing
  truth_flag : ∀ b, truth (flag b) = b

/-- The values of names. -/
abbrev Scope (V : Type) := Name → Option V

/-- The scope in which a name has a value. -/
def Scope.bind {V : Type} (σ : Scope V) (n : Name) (v : V) : Scope V :=
  fun m => if m = n then some v else σ m

section
variable {V : Type}

mutual

/-- The value of an expression in a scope, with a value for its holes; none if there is an error. -/
def Meaning.eval (M : Meaning V) (hole : Option V) : Expr → Scope V → Option V
  | .hole, _ => hole
  | .name n, σ => σ n
  | .nothing, _ => some M.nothing
  | .attribute e n, σ => (M.eval hole e σ).bind (M.attributeOf · n)
  | .call f args, σ => do
    let g ← M.eval hole f σ
    let vs ← M.evalAll hole args σ
    M.call g vs
  | .same a b, σ => do
    let v ← M.eval hole a σ
    let w ← M.eval hole b σ
    return M.flag (M.same v w)
  | .choice yes test no, σ => do
    let v ← M.eval hole test σ
    if M.truth v then M.eval hole yes σ else M.eval hole no σ
  | .each body item source, σ => do
    let v ← M.eval hole source σ
    let vs ← M.items v
    let ws ← vs.mapM fun v => M.eval hole body (σ.bind item v)
    return M.list ws

/-- The values of expressions one after another. -/
def Meaning.evalAll (M : Meaning V) (hole : Option V) : List Expr → Scope V → Option (List V)
  | [], _ => some []
  | e :: rest, σ => do
    let v ← M.eval hole e σ
    let vs ← M.evalAll hole rest σ
    return v :: vs

end

/-- The value of a text in a scope. -/
def Meaning.evalText (M : Meaning V) (σ : Scope V) (text : String) : Option V :=
  (readText text).bind (M.eval none · σ)

end

/-! ## Names -/

mutual

/-- The names that an expression takes from the scope around it. -/
def Expr.free : Expr → List Name
  | .hole => []
  | .name n => [n]
  | .nothing => []
  | .attribute e _ => e.free
  | .call f args => f.free ++ freeAll args
  | .same a b => a.free ++ b.free
  | .choice yes test no => yes.free ++ test.free ++ no.free
  | .each body item source => body.free.filter (· ≠ item) ++ source.free

/-- The names that expressions take from the scope around them. -/
def freeAll : List Expr → List Name
  | [] => []
  | e :: rest => e.free ++ freeAll rest

end

mutual

/-- The names that the comprehensions of an expression give to items. -/
def Expr.bound : Expr → List Name
  | .hole => []
  | .name _ => []
  | .nothing => []
  | .attribute e _ => e.bound
  | .call f args => f.bound ++ boundAll args
  | .same a b => a.bound ++ b.bound
  | .choice yes test no => yes.bound ++ test.bound ++ no.bound
  | .each body item source => item :: (body.bound ++ source.bound)

/-- The names that the comprehensions of expressions give to items. -/
def boundAll : List Expr → List Name
  | [] => []
  | e :: rest => e.bound ++ boundAll rest

end

/-! ## Values in scopes that agree -/

section
variable {V : Type} (M : Meaning V) {x : Name} {v : V}

/-- A scope stands for another one and a value of a hole: it gives the value to the name that fills the hole, and agrees with
the other one on the names that are used. -/
structure Stands (x : Name) (v : V) (free bound : List Name) (σ τ : Scope V) : Prop where
  filled : τ x = some v
  agrees : ∀ n ∈ free, τ n = σ n
  notBound : x ∉ bound

theorem Stands.mono {free free' bound bound' : List Name} {σ τ : Scope V} (h : Stands x v free bound σ τ)
    (hfree : ∀ n ∈ free', n ∈ free) (hbound : ∀ n ∈ bound', n ∈ bound) : Stands x v free' bound' σ τ :=
  ⟨h.filled, fun n hn => h.agrees n (hfree n hn), fun hx => h.notBound (hbound x hx)⟩

/-- Scopes that stand for each other do so with one more name in both. -/
theorem Stands.bind {free bound : List Name} {σ τ : Scope V} {item : Name} (w : V)
    (h : Stands x v (free.filter (· ≠ item)) (item :: bound) σ τ) :
    Stands x v free bound (σ.bind item w) (τ.bind item w) where
  filled := by
    have hne : x ≠ item := fun heq => h.notBound (by simp [heq])
    simp [Scope.bind, hne, h.filled]
  agrees n hn := by
    by_cases heq : n = item
    · simp [Scope.bind, heq]
    · simp [Scope.bind, heq, h.agrees n (by simp [hn, heq])]
  notBound hx := h.notBound (List.mem_cons_of_mem _ hx)

mutual

/-- An expression with a name in its holes has the value that it has with the value of the name there. -/
theorem eval_fill : ∀ (e : Expr) (σ τ : Scope V), Stands x v e.free e.bound σ τ →
    M.eval none (e.fill x) τ = M.eval (some v) e σ
  | .hole, σ, τ, h => h.filled
  | .name n, σ, τ, h => h.agrees n (by simp [Expr.free])
  | .nothing, _, _, _ => rfl
  | .attribute e n, σ, τ, h => by
    rw [Expr.fill, Meaning.eval, Meaning.eval, eval_fill e σ τ h]
  | .call f args, σ, τ, h => by
    have hf := eval_fill f σ τ (h.mono (by simp +contextual [Expr.free]) (by simp +contextual [Expr.bound]))
    have hargs := evalAll_fill args σ τ (h.mono (by simp +contextual [Expr.free]) (by simp +contextual [Expr.bound]))
    rw [Expr.fill, Meaning.eval, Meaning.eval, hf, hargs]
  | .same a b, σ, τ, h => by
    have ha := eval_fill a σ τ (h.mono (by simp +contextual [Expr.free]) (by simp +contextual [Expr.bound]))
    have hb := eval_fill b σ τ (h.mono (by simp +contextual [Expr.free]) (by simp +contextual [Expr.bound]))
    rw [Expr.fill, Meaning.eval, Meaning.eval, ha, hb]
  | .choice yes test no, σ, τ, h => by
    have hyes := eval_fill yes σ τ (h.mono (by simp +contextual [Expr.free]) (by simp +contextual [Expr.bound]))
    have htest := eval_fill test σ τ (h.mono (by simp +contextual [Expr.free]) (by simp +contextual [Expr.bound]))
    have hno := eval_fill no σ τ (h.mono (by simp +contextual [Expr.free]) (by simp +contextual [Expr.bound]))
    rw [Expr.fill, Meaning.eval, Meaning.eval, hyes, htest, hno]
  | .each body item source, σ, τ, h => by
    have hsource := eval_fill source σ τ (h.mono (by simp +contextual [Expr.free]) (by simp +contextual [Expr.bound]))
    have hbody : ∀ w, M.eval none (body.fill x) (τ.bind item w) = M.eval (some v) body (σ.bind item w) := by
      intro w
      refine eval_fill body _ _ (Stands.bind w (h.mono ?_ ?_))
      · intro n hn
        rw [Expr.free]
        exact List.mem_append_left _ hn
      · simp only [Expr.bound, List.mem_cons, List.mem_append]
        tauto
    rw [Expr.fill, Meaning.eval, Meaning.eval, hsource]
    simp only [hbody]

theorem evalAll_fill : ∀ (es : List Expr) (σ τ : Scope V), Stands x v (freeAll es) (boundAll es) σ τ →
    M.evalAll none (fillAll x es) τ = M.evalAll (some v) es σ
  | [], _, _, _ => rfl
  | e :: rest, σ, τ, h => by
    have he := eval_fill e σ τ (h.mono (by simp +contextual [freeAll]) (by simp +contextual [boundAll]))
    have hrest := evalAll_fill rest σ τ (h.mono (by simp +contextual [freeAll]) (by simp +contextual [boundAll]))
    rw [fillAll, Meaning.evalAll, Meaning.evalAll, he, hrest]

end

end

end TypedOperations.Expression
