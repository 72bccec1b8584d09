import TypedOperations.Declaration.ElementMap
import TypedOperations.Proofs.Expression.Terms

/-!
# Mapping elements

The expression that maps the elements of a value is read back as a conditional expression for every nullable layer and a
comprehension for every list. Its value is the given one with the transform applied to every element that is not `None`, if the
transform uses none of the names that the comprehensions give to items; and if it does and is made of names, attributes and
calls, there are values for which it is not.
-/

namespace TypedOperations.Expression

open Source (Lexeme)

variable {α V : Type}

/-! ## Names of items -/

theorem isIdentifierContinue_of_isDigit {c : Char} : c.isDigit = true → Text.isIdentifierContinue c = true :=
  Text.of_ascii (P := fun c => c.isDigit = true → Text.isIdentifierContinue c = true) (by decide +kernel) fun hbeyond hdigit => by
    rw [Source.isDigit_of_beyond hbeyond] at hdigit
    cases hdigit

/-- The items of lists have names that may be declared. -/
theorem isDeclarable_item (i : Nat) : Text.isDeclarable ("item" ++ toString i) = true := by
  have hchars : ("item" ++ toString i).toList = 'i' :: 't' :: 'e' :: 'm' :: Nat.toDigits 10 i := by
    have hdigits : (toString i).toList = Nat.toDigits 10 i := by
      rw [Nat.toString_eq_repr, Nat.repr_eq_ofList_toDigits, String.toList_ofList]
    rw [String.toList_append, hdigits]
    rfl
  have hdigits : (Nat.toDigits 10 i).all Text.isIdentifierContinue = true :=
    List.all_eq_true.mpr fun c hc =>
      isIdentifierContinue_of_isDigit (Nat.isDigit_of_mem_toDigits (by decide) (by decide) hc)
  have hstart : Text.isIdentifierStart 'i' = true := by decide +kernel
  have hletters : ['t', 'e', 'm'].all Text.isIdentifierContinue = true := by decide +kernel
  have hidentifier : Text.isIdentifier ("item" ++ toString i) = true := by
    rw [Text.isIdentifier, hchars]
    simp only [List.all_cons, List.all_nil, Bool.and_true] at hletters
    simp only [List.all_cons, hstart, hdigits, hletters, Bool.and_self, Bool.and_true]
  have hreserved : Text.isReserved ("item" ++ toString i) = false := by
    rw [Text.isReserved, Bool.eq_false_iff]
    intro hcontains
    have hwords : ∀ w ∈ Text.reservedWords, w.toList.take 4 ≠ ['i', 't', 'e', 'm'] := by decide
    exact hwords _ (List.contains_iff_mem.mp hcontains) (by rw [hchars]; rfl)
  rw [Text.isDeclarable, hidentifier, hreserved]
  rfl

/-- The name of the items of the list at a depth. -/
def itemName (i : Nat) : Name := ⟨"item" ++ toString i, isDeclarable_item i⟩

theorem itemName_inj {i j : Nat} (h : itemName i = itemName j) : i = j := by
  have hval : "item" ++ toString i = "item" ++ toString j := congrArg Subtype.val h
  exact Source.toString_inj ((String.append_right_inj _).mp hval)

/-! ## Values of a type -/

/-- How many lists a type has around its named type. -/
def layers : TypeRef α → Nat
  | .named _ _ => 0
  | .list item _ => layers item + 1

/-- The value has the shape of the type: `None` stands only where the type is nullable. -/
def HasShape (M : Meaning V) : TypeRef α → V → Prop
  | .named _ required, v => required = true → v ≠ M.nothing
  | .list item required, v => (required = false ∧ v = M.nothing) ∨ ∃ vs, v = M.list vs ∧ ∀ u ∈ vs, HasShape M item u

/-- The second value is the first with every element that is not `None` replaced by one that it is related to: `None` stays,
and a list stays a list with as many items in the same order. -/
def Mapped (M : Meaning V) (r : V → V → Prop) : TypeRef α → V → V → Prop
  | .named _ required, v, w => (required = false ∧ v = M.nothing ∧ w = M.nothing) ∨ (v ≠ M.nothing ∧ r v w)
  | .list item required, v, w => (required = false ∧ v = M.nothing ∧ w = M.nothing) ∨
      ∃ vs ws, v = M.list vs ∧ w = M.list ws ∧ List.Forall₂ (Mapped M r item) vs ws

/-! ## The expression of a type -/

/-- The expression behind a test for `None`, where the value may be null. -/
def guarded (required : Bool) (value : Name) (e : Expr) : Expr :=
  if required then e else .choice .nothing (.same (.name value) .nothing) e

/-- The expression that maps the elements of a value. -/
def mapExpr (f : Expr) (value : Name) (depth : Nat) : TypeRef α → Expr
  | .named _ required => guarded required value (f.fill value)
  | .list item required =>
    guarded required value (.each (mapExpr f (itemName depth) (depth + 1) item) (itemName depth) (.name value))

/-- The name of the elements in the transform. -/
def innermost (value : Name) (depth : Nat) : TypeRef α → Name
  | .named _ _ => value
  | .list item _ => innermost (itemName depth) (depth + 1) item

/-! ## The text is that of the expression -/

mutual

/-- What fills the holes of an expression is written like the name there. -/
theorem lexemes_fill (x y : Name) : ∀ (e : Expr) (place : Place), (e.fill x).lexemes y place = e.lexemes x place
  | .hole, _ => rfl
  | .name _, _ => rfl
  | .nothing, _ => rfl
  | .attribute e n, _ => by rw [Expr.fill, Expr.lexemes, Expr.lexemes, lexemes_fill x y e]
  | .call f args, _ => by rw [Expr.fill, Expr.lexemes, Expr.lexemes, lexemes_fill x y f, argumentLexemes_fill x y args]
  | .same a b, _ => by rw [Expr.fill, Expr.lexemes, Expr.lexemes, lexemes_fill x y a, lexemes_fill x y b]
  | .choice yes test no, _ => by
    rw [Expr.fill, Expr.lexemes, Expr.lexemes, lexemes_fill x y yes, lexemes_fill x y test, lexemes_fill x y no]
  | .each body item source, _ => by
    rw [Expr.fill, Expr.lexemes, Expr.lexemes, lexemes_fill x y body, lexemes_fill x y source]

theorem argumentLexemes_fill (x y : Name) : ∀ args : List Expr, argumentLexemes y (fillAll x args) = argumentLexemes x args
  | [] => rfl
  | e :: rest => by rw [fillAll, argumentLexemes, argumentLexemes, lexemes_fill x y e, laterLexemes_fill x y rest]

theorem laterLexemes_fill (x y : Name) : ∀ args : List Expr, laterLexemes y (fillAll x args) = laterLexemes x args
  | [] => rfl
  | e :: rest => by rw [fillAll, laterLexemes, laterLexemes, lexemes_fill x y e, laterLexemes_fill x y rest]

end

mutual

/-- An expression that was filled has no holes. -/
theorem fill_fill (x y : Name) : ∀ e : Expr, (e.fill x).fill y = e.fill x
  | .hole => rfl
  | .name _ => rfl
  | .nothing => rfl
  | .attribute e n => by rw [Expr.fill, Expr.fill, fill_fill x y e]
  | .call f args => by rw [Expr.fill, Expr.fill, fill_fill x y f, fillAll_fillAll x y args]
  | .same a b => by rw [Expr.fill, Expr.fill, fill_fill x y a, fill_fill x y b]
  | .choice yes test no => by rw [Expr.fill, Expr.fill, fill_fill x y yes, fill_fill x y test, fill_fill x y no]
  | .each body item source => by rw [Expr.fill, Expr.fill, fill_fill x y body, fill_fill x y source]

theorem fillAll_fillAll (x y : Name) : ∀ es : List Expr, fillAll y (fillAll x es) = fillAll x es
  | [] => rfl
  | e :: rest => by rw [fillAll, fillAll, fill_fill x y e, fillAll_fillAll x y rest]

end

section
variable {F : Transform} {f : Expr}

theorem fill_mapExpr (y : Name) (t : TypeRef α) (value : Name) (depth : Nat) :
    (mapExpr f value depth t).fill y = mapExpr f value depth t := by
  induction t generalizing value depth with
  | named a required => cases required <;> simp [mapExpr, guarded, Expr.fill, fill_fill]
  | list item required ih => cases required <;> simp [mapExpr, guarded, Expr.fill, ih]

theorem text_guarded (y value : Name) (required : Bool) (e : Expr) (m : ElementMap) (hm : m.text F = e.text y) :
    (ElementMap.checked required value.val m).text F = (guarded required value e).text y := by
  cases required with
  | true => exact hm
  | false =>
    rw [ElementMap.checked, if_neg (by decide), guarded, if_neg (by decide), ElementMap.text, hm, ← String.toList_inj]
    simp [Expr.toList_text, Expr.lexemes, Lexeme.chars]

/-- The expression of a type is written as its text. -/
theorem text_mapExpr (hF : ∀ x : Name, F.fill x.val = f.text x) (y : Name) (t : TypeRef α) (value : Name) (depth : Nat) :
    (ElementMap.ofType value.val depth t).text F = (mapExpr f value depth t).text y := by
  induction t generalizing value depth with
  | named a required =>
    refine text_guarded y value required (f.fill value) (.element value.val) ?_
    rw [ElementMap.text, hF, Expr.text, Expr.text, lexemes_fill]
  | list item required ih =>
    refine text_guarded y value required _ (.each _ ("item" ++ toString depth) value.val) ?_
    have hbody : (ElementMap.ofType ("item" ++ toString depth) (depth + 1) item).text F =
        (mapExpr f (itemName depth) (depth + 1) item).text y := ih (itemName depth) (depth + 1)
    rw [ElementMap.text, hbody, ← String.toList_inj]
    simp [Expr.toList_text, Expr.lexemes, Lexeme.chars, itemName]

theorem readText_mapExpr (hF : ∀ x : Name, F.fill x.val = f.text x) (t : TypeRef α) (value : Name) (depth : Nat) :
    readText ((ElementMap.ofType value.val depth t).text F) = some (mapExpr f value depth t) := by
  rw [text_mapExpr hF value, readText_text, fill_mapExpr]

end

/-! ## The value of the expression -/

section
variable {M : Meaning V}

theorem mapM_eq_some {β : Type} {g : V → Option β} {vs : List V} {ws : List β} :
    vs.mapM g = some ws ↔ List.Forall₂ (fun v w => g v = some w) vs ws := by
  induction vs generalizing ws with
  | nil => simp [eq_comm]
  | cons v rest ih =>
    rw [List.forall₂_cons_left_iff]
    cases hv : g v with
    | none => simp [hv]
    | some w =>
      cases hrest : rest.mapM g with
      | none => simp [hv, hrest, ← ih]
      | some more => simp [hv, hrest, ← ih, eq_comm]

theorem forall₂_iff_of_mem {r s : V → V → Prop} {vs ws : List V} (h : ∀ v ∈ vs, ∀ w, r v w ↔ s v w) :
    List.Forall₂ r vs ws ↔ List.Forall₂ s vs ws := by
  induction vs generalizing ws with
  | nil => simp
  | cons v rest ih =>
    have hrest : ∀ {ws}, List.Forall₂ r rest ws ↔ List.Forall₂ s rest ws :=
      ih fun u hu => h u (List.mem_cons_of_mem _ hu)
    simp [List.forall₂_cons_left_iff, h v List.mem_cons_self, hrest]

theorem Meaning.list_inj (M : Meaning V) {vs ws : List V} (h : M.list vs = M.list ws) : vs = ws := by
  have hitems := M.items_list vs
  rw [h, M.items_list] at hitems
  exact (Option.some.inj hitems).symm

/-- Where a value may be null and is, the expression behind the test is not reached. -/
theorem eval_guarded_nothing {τ : Scope V} {value : Name} {e : Expr} (hvalue : τ value = some M.nothing) :
    M.eval none (guarded false value e) τ = some M.nothing := by
  have hsame : M.same M.nothing M.nothing = true := (M.same_nothing _).mpr rfl
  simp [guarded, Meaning.eval, hvalue, hsame, M.truth_flag]

theorem eval_guarded {τ : Scope V} {value : Name} {e : Expr} {required : Bool} {v : V} (hvalue : τ value = some v)
    (hv : required = true ∨ v ≠ M.nothing) : M.eval none (guarded required value e) τ = M.eval none e τ := by
  cases required with
  | true => rfl
  | false =>
    have hne : v ≠ M.nothing := hv.resolve_left (by decide)
    have hsame : M.same v M.nothing = false := by
      rw [Bool.eq_false_iff]
      exact fun h => hne ((M.same_nothing v).mp h)
    simp [guarded, Meaning.eval, hvalue, hsame, M.truth_flag]

/-- A comprehension over a list that has a name. -/
theorem eval_each {τ : Scope V} {value item : Name} {body : Expr} {vs : List V} {w : V} (hvalue : τ value = some (M.list vs)) :
    M.eval none (.each body item (.name value)) τ = some w ↔
      ∃ ws, w = M.list ws ∧ List.Forall₂ (fun u y => M.eval none body (τ.bind item u) = some y) vs ws := by
  have heval : M.eval none (.each body item (.name value)) τ =
      (vs.mapM fun u => M.eval none body (τ.bind item u)).map M.list := by
    simp only [Meaning.eval, hvalue, Option.bind_eq_bind, Option.bind_some, M.items_list]
    cases vs.mapM fun u => M.eval none body (τ.bind item u) <;> rfl
  rw [heval, Option.map_eq_some_iff]
  constructor
  · rintro ⟨ws, hws, rfl⟩
    exact ⟨ws, rfl, mapM_eq_some.mp hws⟩
  · rintro ⟨ws, rfl, hws⟩
    exact ⟨ws, mapM_eq_some.mpr hws, rfl⟩

/-- The transform uses no name that the comprehensions around it give to items, and gives the name of the elements to no item of
its own. -/
structure Hygienic (f : Expr) (value : Name) (depth : Nat) (t : TypeRef α) : Prop where
  items : ∀ i, depth ≤ i → i < depth + layers t → itemName i ∉ f.free
  element : innermost value depth t ∉ f.bound

theorem Hygienic.item {f : Expr} {value : Name} {depth : Nat} {item : TypeRef α} {required : Bool}
    (h : Hygienic f value depth (.list item required)) : Hygienic f (itemName depth) (depth + 1) item where
  items i hi hlt := h.items i (by omega) (by rw [layers]; omega)
  element := h.element

/-- The value of the expression is the mapped one. -/
theorem eval_mapExpr {f : Expr} {σ : Scope V} (t : TypeRef α) (value : Name) (depth : Nat) (τ : Scope V) (v w : V)
    (hygienic : Hygienic f value depth t) (hvalue : τ value = some v) (hagrees : ∀ n ∈ f.free, τ n = σ n)
    (hshape : HasShape M t v) :
    M.eval none (mapExpr f value depth t) τ = some w ↔ Mapped M (fun x y => M.eval (some x) f σ = some y) t v w := by
  induction t generalizing value depth τ v w with
  | named a required =>
    by_cases hnull : required = false ∧ v = M.nothing
    · obtain ⟨rfl, rfl⟩ := hnull
      rw [mapExpr, eval_guarded_nothing hvalue]
      simp [Mapped, eq_comm]
    · have hv : required = true ∨ v ≠ M.nothing := by
        cases required with
        | true => exact Or.inl rfl
        | false => exact Or.inr fun h => hnull ⟨rfl, h⟩
      have hne : v ≠ M.nothing := hv.elim hshape id
      have hfill := eval_fill M f σ τ ⟨hvalue, hagrees, hygienic.element⟩
      rw [mapExpr, eval_guarded hvalue hv, hfill]
      simp [Mapped, hne]
  | list item required ih =>
    rcases hshape with ⟨rfl, rfl⟩ | ⟨vs, rfl, hvs⟩
    · rw [mapExpr, eval_guarded_nothing hvalue]
      have hlist : ∀ vs, M.nothing ≠ M.list vs := fun vs => (M.list_ne_nothing vs).symm
      simp [Mapped, eq_comm, hlist]
    · rw [mapExpr, eval_guarded hvalue (Or.inr (M.list_ne_nothing vs)), eval_each hvalue]
      have hitem : ∀ u ∈ vs, ∀ y, M.eval none (mapExpr f (itemName depth) (depth + 1) item) (τ.bind (itemName depth) u) = some y ↔
          Mapped M (fun x y => M.eval (some x) f σ = some y) item u y := by
        intro u hu y
        refine ih (itemName depth) (depth + 1) _ u y hygienic.item (by simp [Scope.bind]) (fun n hn => ?_) (hvs u hu)
        have hne : n ≠ itemName depth := by
          rintro rfl
          exact hygienic.items depth (Nat.le_refl _) (by rw [layers]; omega) hn
        simp [Scope.bind, hne, hagrees n hn]
      constructor
      · rintro ⟨ws, rfl, hws⟩
        exact Or.inr ⟨vs, ws, rfl, rfl, (forall₂_iff_of_mem hitem).mp hws⟩
      · rintro (⟨-, hnothing, -⟩ | ⟨vs', ws, hlist, rfl, hws⟩)
        · exact absurd hnothing (M.list_ne_nothing vs)
        · obtain rfl := M.list_inj hlist
          exact ⟨ws, rfl, (forall₂_iff_of_mem hitem).mpr hws⟩

/-- Where every element is related to one that is not `None` and back, a value is mapped to one of the same shape and back. -/
theorem exists_mapped {r s : V → V → Prop} (hr : ∀ x, x ≠ M.nothing → ∃ y, y ≠ M.nothing ∧ r x y ∧ s y x) (t : TypeRef α) (v : V)
    (hshape : HasShape M t v) : ∃ w, HasShape M t w ∧ Mapped M r t v w ∧ Mapped M s t w v := by
  induction t generalizing v with
  | named a required =>
    by_cases hv : v = M.nothing
    · cases required with
      | true => exact absurd hv (hshape rfl)
      | false => exact ⟨v, hshape, Or.inl ⟨rfl, hv, hv⟩, Or.inl ⟨rfl, hv, hv⟩⟩
    · obtain ⟨y, hy, hry, hsy⟩ := hr v hv
      exact ⟨y, fun _ => hy, Or.inr ⟨hv, hry⟩, Or.inr ⟨hy, hsy⟩⟩
  | list item required ih =>
    rcases hshape with ⟨hrequired, hv⟩ | ⟨vs, rfl, hvs⟩
    · exact ⟨v, Or.inl ⟨hrequired, hv⟩, Or.inl ⟨hrequired, hv, hv⟩, Or.inl ⟨hrequired, hv, hv⟩⟩
    · have hall : ∃ ws, (∀ w ∈ ws, HasShape M item w) ∧ List.Forall₂ (Mapped M r item) vs ws ∧
          List.Forall₂ (Mapped M s item) ws vs := by
        induction vs with
        | nil => exact ⟨[], by simp, .nil, .nil⟩
        | cons u rest ihrest =>
          obtain ⟨y, hy, hry, hsy⟩ := ih u (hvs u List.mem_cons_self)
          obtain ⟨ws, hws, hrws, hsws⟩ := ihrest fun u' hu' => hvs u' (List.mem_cons_of_mem _ hu')
          exact ⟨y :: ws, List.forall_mem_cons.mpr ⟨hy, hws⟩, .cons hry hrws, .cons hsy hsws⟩
      obtain ⟨ws, hws, hrws, hsws⟩ := hall
      exact ⟨M.list ws, Or.inr ⟨ws, rfl, hws⟩, Or.inr ⟨vs, ws, rfl, rfl, hrws⟩, Or.inr ⟨ws, vs, rfl, rfl, hsws⟩⟩

end

/-! ## Names that are taken -/

/-- A thing in so many lists of one item. -/
def wrap : Nat → Thing → Thing
  | 0, a => a
  | n + 1, a => .list [wrap n a]

theorem wrap_right_inj {a b : Thing} (n : Nat) (h : wrap n a = wrap n b) : a = b := by
  induction n with
  | zero => exact h
  | succ n ih => exact ih (List.cons.inj (Thing.list.inj h)).1

theorem wrap_element_inj {m n : Nat} (h : wrap m .element = wrap n .element) : m = n := by
  induction m generalizing n with
  | zero =>
    cases n with
    | zero => rfl
    | succ n => cases h
  | succ m ih =>
    cases n with
    | zero => cases h
    | succ n => rw [ih (List.cons.inj (Thing.list.inj h)).1]

theorem wrap_ne_global (m : Nat) (n : Name) : wrap m .element ≠ .global n := by
  cases m <;> exact Thing.noConfusion

/-- The values of names inside so many comprehensions over lists of one item. -/
def inside (g : Name → Thing) (depth : Nat) : Nat → Name → Thing
  | 0 => g
  | n + 1 => inside (fun m => if m = itemName depth then wrap n .element else g m) (depth + 1) n

theorem inside_of_ne {m : Name} (n : Nat) (g : Name → Thing) (depth : Nat) (hm : ∀ i, depth ≤ i → m ≠ itemName i) :
    inside g depth n m = g m := by
  induction n generalizing g depth with
  | zero => rfl
  | succ n ih =>
    rw [inside, ih _ _ fun i hi => hm i (by omega), if_neg (hm depth (Nat.le_refl _))]

/-- The name of the items of a list has the value of the item there. -/
theorem inside_item (n : Nat) (g : Name → Thing) (depth i : Nat) (hi : depth ≤ i) (hlt : i < depth + n) :
    inside g depth n (itemName i) = wrap (depth + n - 1 - i) .element := by
  induction n generalizing g depth with
  | zero => omega
  | succ n ih =>
    rw [inside]
    by_cases heq : i = depth
    · subst heq
      have hlater : ∀ j, i + 1 ≤ j → itemName i ≠ itemName j := by
        intro j hj hname
        have := itemName_inj hname
        omega
      have hdepth : i + (n + 1) - 1 - i = n := by omega
      rw [inside_of_ne n _ _ hlater, if_pos rfl, hdepth]
    · have hdepth : depth + (n + 1) - 1 - i = depth + 1 + n - 1 - i := by omega
      rw [ih _ _ (by omega) (by omega), hdepth]

theorem everywhere_bind (g : Name → Thing) (n : Name) (v : Thing) :
    (everywhere g).bind n v = everywhere fun m => if m = n then v else g m := by
  funext m
  rw [Scope.bind, everywhere, everywhere]
  split <;> rfl

/-- The value of the expression for lists of one item, with whatever values the names have inside. -/
theorem eval_wrapped {f : Expr} (hf : f.IsPlain) (t : TypeRef α) (value : Name) (depth : Nat) (g : Name → Thing)
    (hvalue : g value = wrap (layers t) .element) :
    records.eval none (mapExpr f value depth t) (everywhere g) =
      (records.eval (some .element) f (everywhere (inside g depth (layers t)))).map (wrap (layers t)) := by
  induction t generalizing value depth g with
  | named a required =>
    have hstands : Stands value Thing.element f.free f.bound (everywhere g) (everywhere g) :=
      ⟨congrArg some hvalue, fun _ _ => rfl, by rw [bound_of_isPlain f hf]; exact List.not_mem_nil⟩
    have hne : Thing.element ≠ records.nothing := Thing.noConfusion
    have hid : wrap 0 = id := rfl
    rw [mapExpr, eval_guarded hstands.filled (Or.inr hne), eval_fill records f _ _ hstands, layers, hid, Option.map_id]
    rfl
  | list item required ih =>
    have hlist : everywhere g value = some (records.list [wrap (layers item) .element]) := congrArg some hvalue
    have hbody := ih (itemName depth) (depth + 1) (fun m => if m = itemName depth then wrap (layers item) .element else g m)
      (if_pos rfl)
    rw [mapExpr, eval_guarded hlist (Or.inr (records.list_ne_nothing _))]
    simp only [Meaning.eval, hlist, Option.bind_eq_bind, Option.bind_some, records.items_list, List.mapM_cons, List.mapM_nil,
      everywhere_bind, hbody, layers, inside]
    cases records.eval (some .element) f _ <;> rfl

theorem hasShape_wrapped (t : TypeRef α) : HasShape records t (wrap (layers t) .element) := by
  induction t with
  | named a required => exact fun _ => Thing.noConfusion
  | list item required ih => exact Or.inr ⟨[wrap (layers item) .element], rfl, by simpa using ih⟩

theorem mapped_wrapped {r : Thing → Thing → Prop} (t : TypeRef α) {w : Thing}
    (h : Mapped records r t (wrap (layers t) .element) w) : ∃ a, r .element a ∧ w = wrap (layers t) a := by
  induction t generalizing w with
  | named a required =>
    rcases h with ⟨-, hnothing, -⟩ | ⟨-, hr⟩
    · cases hnothing
    · exact ⟨w, hr, rfl⟩
  | list item required ih =>
    rcases h with ⟨-, hnothing, -⟩ | ⟨vs, ws, hlist, rfl, hws⟩
    · cases hnothing
    · obtain rfl := Thing.list.inj hlist
      cases hws with
      | cons hitem hrest =>
        cases hrest
        obtain ⟨a, ha, rfl⟩ := ih hitem
        exact ⟨a, ha, rfl⟩

/-- Where a transform of names, attributes and calls uses the name of an item, the value is not always the mapped one. -/
theorem captured {f : Expr} (hf : f.IsPlain) {value : Name} {t : TypeRef α} (hygienic : ¬ Hygienic f value 0 t) :
    ∃ (σ : Scope Thing) (v w : Thing), σ value = some v ∧ HasShape records t v ∧
      records.eval none (mapExpr f value 0 t) σ = some w ∧
      ¬ Mapped records (fun x y => records.eval (some x) f σ = some y) t v w := by
  have hitem : ∃ i, i < layers t ∧ itemName i ∈ f.free := by
    by_contra hnone
    refine hygienic ⟨fun i _ hi hmem => hnone ⟨i, by omega, hmem⟩, ?_⟩
    rw [bound_of_isPlain f hf]
    exact List.not_mem_nil
  obtain ⟨i, hi, hmem⟩ := hitem
  let g : Name → Thing := fun n => if n = value then wrap (layers t) .element else .global n
  obtain ⟨a, ha⟩ := exists_eval .element (inside g 0 (layers t)) f hf
  refine ⟨everywhere g, wrap (layers t) .element, wrap (layers t) a, by simp [everywhere, g], hasShape_wrapped t, ?_, fun h => ?_⟩
  · rw [eval_wrapped hf t value 0 g (by simp [g]), ha]
    rfl
  · obtain ⟨b, hb, heq⟩ := mapped_wrapped t h
    rw [wrap_right_inj _ heq] at ha
    have hagree := agree_of_eval .element g (inside g 0 (layers t)) f hf (hb.trans ha.symm) (itemName i) hmem
    rw [inside_item _ _ _ _ (Nat.zero_le _) (by omega)] at hagree
    by_cases hname : itemName i = value
    · have := wrap_element_inj ((if_pos hname).symm.trans hagree)
      omega
    · exact wrap_ne_global _ _ ((if_neg hname).symm.trans hagree).symm

/-! ## Objects and their snapshots -/

/-- A class by the names that lead to it. -/
def classPath (n : Name) (ns : List Name) : Expr :=
  ns.foldl .attribute (.name n)

/-- The names that lead to a class, with points between them. -/
def classText (n : Name) (ns : List Name) : String :=
  n.val ++ String.join (ns.map fun m => "." ++ m.val)

/-- The name of the snapshot of an object. -/
def snapshotName : Name := ⟨"snapshot", by decide +kernel⟩

/-- An object of a class over an element. -/
def constructExpr (n : Name) (ns : List Name) : Expr := .call (classPath n ns) [.hole]

/-- The snapshot of an element. -/
def snapshotExpr : Expr := .attribute .hole snapshotName

theorem fill_snapshot (x : Name) : Transform.snapshot.fill x.val = snapshotExpr.text x := by
  rw [← String.toList_inj]
  simp [Transform.snapshot, Transform.fill, snapshotExpr, snapshotName, Expr.toList_text, Expr.lexemes, Lexeme.chars]

theorem lexemes_path (x : Name) (e : Expr) (ns : List Name) :
    (ns.foldl Expr.attribute e).lexemes x .primary =
      e.lexemes x .primary ++ ns.flatMap fun m => [.mark '.', .word m.val] := by
  induction ns generalizing e with
  | nil => simp
  | cons m rest ih => simp [ih, Expr.lexemes]

theorem toList_classText (x n : Name) (ns : List Name) :
    (classText n ns).toList = ((classPath n ns).lexemes x .primary).flatMap Lexeme.chars := by
  have hpoints : (String.join (ns.map fun m => "." ++ m.val)).toList =
      (ns.flatMap fun m => [Lexeme.mark '.', .word m.val]).flatMap Lexeme.chars := by
    rw [String.toList_join, List.flatMap_map, List.flatMap_assoc]
    refine List.flatMap_congr fun m _ => ?_
    simp [Lexeme.chars]
  rw [classText, String.toList_append, hpoints, classPath, lexemes_path, List.flatMap_append]
  simp [Expr.lexemes, Lexeme.chars]

theorem fill_construct (n : Name) (ns : List Name) (x : Name) :
    (Transform.construct (classText n ns)).fill x.val = (constructExpr n ns).text x := by
  rw [← String.toList_inj]
  simp [Transform.construct, Transform.fill, constructExpr, Expr.toList_text, Expr.lexemes, argumentLexemes, laterLexemes,
    toList_classText x, Lexeme.chars]

theorem free_path (e : Expr) (ns : List Name) : (ns.foldl Expr.attribute e).free = e.free := by
  induction ns generalizing e with
  | nil => rfl
  | cons m rest ih => exact ih (.attribute e m)

theorem bound_path (e : Expr) (ns : List Name) : (ns.foldl Expr.attribute e).bound = e.bound := by
  induction ns generalizing e with
  | nil => rfl
  | cons m rest ih => exact ih (.attribute e m)

theorem eval_path {M : Meaning V} {σ : Scope V} (x : V) (e : Expr) (ns : List Name)
    (he : M.eval (some x) e σ = M.eval none e σ) :
    M.eval (some x) (ns.foldl .attribute e) σ = M.eval none (ns.foldl .attribute e) σ := by
  induction ns generalizing e with
  | nil => exact he
  | cons m rest ih => exact ih (.attribute e m) (by rw [Meaning.eval, Meaning.eval, he])

theorem eval_construct {M : Meaning V} {σ : Scope V} {n : Name} {ns : List Name} {k : V}
    (hk : M.eval none (classPath n ns) σ = some k) (x : V) : M.eval (some x) (constructExpr n ns) σ = M.call k [x] := by
  have hpath : M.eval (some x) (classPath n ns) σ = some k := (eval_path x (.name n) ns rfl).trans hk
  simp [constructExpr, Meaning.eval, Meaning.evalAll, hpath]

theorem hygienic_construct {n : Name} (ns : List Name) (value : Name) {t : TypeRef α} (hn : ∀ i < layers t, n ≠ itemName i) :
    Hygienic (constructExpr n ns) value 0 t where
  items i _ hi hmem := by
    have hfree : (constructExpr n ns).free = [n] := by simp [constructExpr, Expr.free, freeAll, classPath, free_path]
    rw [hfree, List.mem_singleton] at hmem
    exact hn i (by omega) hmem.symm
  element := by
    have hbound : (constructExpr n ns).bound = [] := by simp [constructExpr, Expr.bound, boundAll, classPath, bound_path]
    rw [hbound]
    exact List.not_mem_nil

theorem hygienic_snapshot (value : Name) (t : TypeRef α) : Hygienic snapshotExpr value 0 t where
  items _ _ _ hmem := nomatch hmem
  element hmem := nomatch hmem

/-- The snapshots of objects that were made over the elements of a value are the value again. -/
theorem snapshot_construct {M : Meaning V} {σ : Scope V} {n : Name} {ns : List Name} {k v : V} (t : TypeRef α)
    (hshape : HasShape M t v) (hk : M.eval none (classPath n ns) σ = some k)
    (hsnapshot : ∀ x, x ≠ M.nothing → ∃ o, o ≠ M.nothing ∧ M.call k [x] = some o ∧ M.attributeOf o snapshotName = some x) :
    ∃ w, HasShape M t w ∧ Mapped M (fun x y => M.eval (some x) (constructExpr n ns) σ = some y) t v w ∧
      ∀ σ', Mapped M (fun x y => M.eval (some x) snapshotExpr σ' = some y) t w v := by
  have hback : ∀ x, x ≠ M.nothing → ∃ y, y ≠ M.nothing ∧ M.eval (some x) (constructExpr n ns) σ = some y ∧
      M.attributeOf y snapshotName = some x := by
    intro x hx
    obtain ⟨o, ho, hcall, hattribute⟩ := hsnapshot x hx
    exact ⟨o, ho, (eval_construct hk x).trans hcall, hattribute⟩
  obtain ⟨w, hw, hmapped, hunmapped⟩ := exists_mapped hback t v hshape
  exact ⟨w, hw, hmapped, fun _ => hunmapped⟩

/-! ## The text of a type -/

/-- The expression that maps the elements of a value is read as a test for `None` for every nullable layer and a comprehension
for every list. For a transform that uses none of the names of items, its value is the given one with the transform applied to
every element that is not `None`, whatever the name of the value is; of transforms of names, attributes and calls, it is so for
no other. The snapshots of objects over the elements of a value are the value again, if the class is not named like an item. -/
theorem elementMap_meaning (t : TypeRef α) (value : Name) (F : Transform) (f : Expr)
    (hF : ∀ x : Name, F.fill x.val = f.text x) :
    readText ((ElementMap.ofType value.val 0 t).text F) = some (mapExpr f value 0 t) ∧
    (Hygienic f value 0 t → ∀ (V : Type) (M : Meaning V) (σ : Scope V) (v w : V), σ value = some v → HasShape M t v →
      (M.evalText σ ((ElementMap.ofType value.val 0 t).text F) = some w ↔
        Mapped M (fun x y => M.eval (some x) f σ = some y) t v w)) ∧
    (f.IsPlain → ¬ Hygienic f value 0 t → ∃ (σ : Scope Thing) (v w : Thing), σ value = some v ∧ HasShape records t v ∧
      records.evalText σ ((ElementMap.ofType value.val 0 t).text F) = some w ∧
      ¬ Mapped records (fun x y => records.eval (some x) f σ = some y) t v w) ∧
    ∀ (n : Name) (ns : List Name), (∀ i < layers t, n ≠ itemName i) →
      ∀ (V : Type) (M : Meaning V) (σ : Scope V) (v k : V), σ value = some v → HasShape M t v →
        M.eval none (classPath n ns) σ = some k →
        (∀ x, x ≠ M.nothing → ∃ o, o ≠ M.nothing ∧ M.call k [x] = some o ∧ M.attributeOf o snapshotName = some x) →
        ∃ w, M.evalText σ ((ElementMap.ofType value.val 0 t).text (.construct (classText n ns))) = some w ∧
          ∀ (value' : Name) (σ' : Scope V), σ' value' = some w →
            M.evalText σ' ((ElementMap.ofType value'.val 0 t).text .snapshot) = some v := by
  have hread := readText_mapExpr hF t value 0
  refine ⟨hread, ?_, ?_, ?_⟩
  · intro hygienic V M σ v w hvalue hshape
    rw [Meaning.evalText, hread]
    exact eval_mapExpr t value 0 σ v w hygienic hvalue (fun _ _ => rfl) hshape
  · intro hf hygienic
    obtain ⟨σ, v, w, hvalue, hshape, heval, hnot⟩ := captured hf hygienic
    refine ⟨σ, v, w, hvalue, hshape, ?_, hnot⟩
    rw [Meaning.evalText, hread]
    exact heval
  · intro n ns hn V M σ v k hvalue hshape hk hsnapshot
    obtain ⟨w, hw, hmapped, hunmapped⟩ := snapshot_construct t hshape hk hsnapshot
    refine ⟨w, ?_, fun value' σ' hvalue' => ?_⟩
    · rw [Meaning.evalText, readText_mapExpr (fill_construct n ns) t value 0]
      exact (eval_mapExpr t value 0 σ v w (hygienic_construct ns value hn) hvalue (fun _ _ => rfl) hshape).mpr hmapped
    · rw [Meaning.evalText, readText_mapExpr fill_snapshot t value' 0]
      exact (eval_mapExpr t value' 0 σ' w v (hygienic_snapshot value' t) hvalue' (fun _ _ => rfl) hw).mpr (hunmapped σ')

/-- Things, of which a call has its argument as its attribute. -/
def views : Meaning Thing :=
  { records with
    attributeOf := fun v n =>
      match v with
      | .call _ [x] => some x
      | v => some (.attribute v n) }

/-- A list of two lists, of which one has an element and `None` and the other has no items. -/
def pairOfLists : Thing :=
  .list [.list [.element, .nothing], .list []]

/-- A nullable list of lists of elements, of which each may be null. -/
def pairType : TypeRef Unit :=
  .list (.list (.named () false) true) false

theorem hasShape_pair (M : Meaning Thing) (hlist : M.list = .list) : HasShape M pairType pairOfLists := by
  refine Or.inr ⟨[.list [.element, .nothing], .list []], by rw [hlist]; rfl, fun u hu => Or.inr ?_⟩
  obtain ⟨us, rfl⟩ : ∃ us, u = .list us := by
    rcases List.mem_pair.mp hu with rfl | rfl <;> exact ⟨_, rfl⟩
  exact ⟨us, by rw [hlist], fun _ _ hrequired => nomatch hrequired⟩

/-- The scope in which one name has a value, and every other name is a thing of its own. -/
def scopeOf (value : Name) (v : Thing) : Scope Thing :=
  everywhere fun n => if n = value then v else .global n

theorem scopeOf_self (value : Name) (v : Thing) : scopeOf value v value = some v :=
  congrArg some (if_pos rfl)

theorem scopeOf_of_ne {value n : Name} (v : Thing) (hn : n ≠ value) : scopeOf value v n = some (.global n) :=
  congrArg some (if_neg hn)

/-- A value that is called like the items of its inner lists is mapped to snapshots, and to objects whose snapshots it is. -/
theorem elementMap_meaning_nested :
    (∀ x : Name, Transform.snapshot.fill x.val = snapshotExpr.text x) ∧
    (ElementMap.ofType "item1" 0 pairType).text .snapshot =
      "None if item1 is None else [[None if item1 is None else item1.snapshot for item1 in item0] for item0 in item1]" ∧
    records.evalText (scopeOf (itemName 1) pairOfLists) ((ElementMap.ofType "item1" 0 pairType).text .snapshot) =
      some (.list [.list [.attribute .element snapshotName, .nothing], .list []]) ∧
    ∃ w, views.evalText (scopeOf (itemName 1) pairOfLists)
        ((ElementMap.ofType "item1" 0 pairType).text (.construct "Query.Hero")) = some w ∧
      views.evalText (scopeOf (itemName 1) w) ((ElementMap.ofType "item1" 0 pairType).text .snapshot) = some pairOfLists := by
  obtain ⟨-, hmapped, -, hback⟩ := elementMap_meaning pairType (itemName 1) .snapshot snapshotExpr fill_snapshot
  refine ⟨fill_snapshot, by decide, ?_, ?_⟩
  · refine (hmapped (hygienic_snapshot _ _) Thing records _ pairOfLists _ (scopeOf_self _ _)
      (hasShape_pair records rfl)).mpr ?_
    have hfirst : Mapped records
        (fun x y => records.eval (some x) snapshotExpr (scopeOf (itemName 1) pairOfLists) = some y)
        (TypeRef.list (.named () false) true) (.list [.element, .nothing]) (.list [.attribute .element snapshotName, .nothing]) :=
      Or.inr ⟨_, _, rfl, rfl, .cons (Or.inr ⟨Thing.noConfusion, rfl⟩) (.cons (Or.inl ⟨rfl, rfl, rfl⟩) .nil)⟩
    exact Or.inr ⟨_, _, rfl, rfl, .cons hfirst (.cons (Or.inr ⟨[], [], rfl, rfl, .nil⟩) .nil)⟩
  · let query : Name := ⟨"Query", by decide +kernel⟩
    let hero : Name := ⟨"Hero", by decide +kernel⟩
    have hclass : ∀ i < layers pairType, query ≠ itemName i := by decide
    have hquery : scopeOf (itemName 1) pairOfLists query = some (.global query) :=
      scopeOf_of_ne _ (hclass 1 (by decide))
    have hpath : views.eval none (classPath query [hero]) (scopeOf (itemName 1) pairOfLists) =
        some (.attribute (.global query) hero) := by
      rw [classPath, List.foldl_cons, List.foldl_nil, Meaning.eval, Meaning.eval, hquery]
      rfl
    obtain ⟨w, hw, hagain⟩ := hback query [hero] hclass Thing views _ pairOfLists _ (scopeOf_self _ _)
      (hasShape_pair views rfl) hpath fun x _ => ⟨.call _ [x], Thing.noConfusion, rfl, rfl⟩
    exact ⟨w, hw, hagain (itemName 1) _ (scopeOf_self _ _)⟩

/-- The name of a value. -/
def valueName : Name := ⟨"value", by decide +kernel⟩

/-- Where a class has the name of an item, the name stands for the item there: the element is called, and not the class. -/
theorem elementMap_captured_class :
    (ElementMap.ofType "value" 0 (TypeRef.list (.named () true) true)).text (.construct "item0") =
      "[item0(item0) for item0 in value]" ∧
    HasShape records (TypeRef.list (.named () true) true) (.list [.element]) ∧
    records.evalText (scopeOf valueName (.list [.element])) "[item0(item0) for item0 in value]" =
      some (.list [.call .element [.element]]) ∧
    ∀ w, Mapped records
        (fun x y => records.eval (some x) (constructExpr (itemName 0) []) (scopeOf valueName (.list [.element])) = some y)
        (TypeRef.list (.named () true) true) (.list [.element]) w →
      w = .list [.call (.global (itemName 0)) [.element]] := by
  let t : TypeRef Unit := .list (.named () true) true
  have htext : (ElementMap.ofType "value" 0 t).text (.construct "item0") = "[item0(item0) for item0 in value]" := by
    decide
  refine ⟨htext, hasShape_wrapped t, ?_, fun w hw => ?_⟩
  · have hread : readText "[item0(item0) for item0 in value]" = some (mapExpr (constructExpr (itemName 0) []) valueName 0 t) := by
      rw [← htext]
      exact readText_mapExpr (fill_construct (itemName 0) []) t valueName 0
    have hplain : (constructExpr (itemName 0) []).IsPlain := ⟨trivial, trivial, trivial⟩
    rw [Meaning.evalText, hread]
    exact eval_wrapped hplain t valueName 0 _ (if_pos rfl)
  · obtain ⟨a, ha, rfl⟩ := mapped_wrapped t hw
    have hclass : records.eval none (classPath (itemName 0) []) (scopeOf valueName (.list [.element])) =
        some (.global (itemName 0)) := scopeOf_of_ne _ (by decide)
    rw [eval_construct hclass] at ha
    obtain rfl := Option.some.inj ha
    rfl

end TypedOperations.Expression
