import TypedOperations.Language.Parser
import TypedOperations.Language.Sites
import TypedOperations.Language.Typename
import TypedOperations.Proofs.Number.Numeral
import TypedOperations.Proofs.Outcome

/-!
# How numerals are spelled

The literals of a document keep their numerals as text. Whatever the parser gives has numerals of the two forms of the query
language, integers and decimal fractions: the lexer reads no others (`tokens_ok`), every parser keeps its tokens that way and
yields selections of such tokens (`Yields`), and so parsed documents are well spelled (`parse_wellSpelled`). Inserting
`__typename` keeps them so (`WellSpelled.addTypename`).
-/

namespace TypedOperations.Language

mutual

/-- The numerals in a literal are spelled like integers and decimal fractions. -/
def Literal.WellSpelled : Literal → Prop
  | .int digits => ∃ i, Decimal.SpellsInt digits.toList i
  | .float digits => ∃ negative r, Decimal.SpellsDecimal digits.toList negative r
  | .list items => allWellSpelled items
  | .object fields => fieldsWellSpelled fields
  | _ => True

/-- The numerals in literals are well spelled. -/
def allWellSpelled : List Literal → Prop
  | [] => True
  | l :: items => l.WellSpelled ∧ allWellSpelled items

/-- The numerals in the fields of an object are well spelled. -/
def fieldsWellSpelled : List (String × Literal) → Prop
  | [] => True
  | (_, l) :: fields => l.WellSpelled ∧ fieldsWellSpelled fields

end

/-- The numerals in the arguments of the selections, nested ones included, are well spelled. -/
def SpelledSelections (xs : List Selection) : Prop :=
  ∀ y ∈ allSelections xs, ∀ a ∈ y.arguments, a.value.WellSpelled

theorem spelledSelections_nil : SpelledSelections [] := by
  simp [SpelledSelections, allSelections]

theorem spelledSelections_cons {x : Selection} {rest : List Selection} :
    SpelledSelections (x :: rest) ↔ SpelledSelections [x] ∧ SpelledSelections rest := by
  simp [SpelledSelections, allSelections, or_imp, forall_and]

/-- Selections are well spelled one by one. -/
theorem spelledSelections_iff {xs : List Selection} : SpelledSelections xs ↔ ∀ x ∈ xs, SpelledSelections [x] := by
  induction xs with
  | nil => simp [spelledSelections_nil]
  | cons x rest ih => rw [spelledSelections_cons, ih, List.forall_mem_cons]

theorem spelledSelections_field {label : Option String} {name : String} {args : List Argument} {ds : List Directive}
    {sub : Option (List Selection)} :
    SpelledSelections [.field label name args ds sub] ↔
      (∀ a ∈ args, a.value.WellSpelled) ∧ ∀ inner, sub = some inner → SpelledSelections inner := by
  cases sub <;> simp [SpelledSelections, allSelections, Selection.all, Selection.arguments]

theorem spelledSelections_spread {name : String} {ds : List Directive} : SpelledSelections [.spread name ds] := by
  simp [SpelledSelections, allSelections, Selection.all, Selection.arguments]

theorem spelledSelections_inline {condition : Option String} {ds : List Directive} {sub : List Selection} :
    SpelledSelections [.inline condition ds sub] ↔ SpelledSelections sub := by
  simp [SpelledSelections, allSelections, Selection.all, Selection.arguments]

/-- The numerals in the arguments of all selections of a definition are well spelled. -/
def Definition.WellSpelled (x : Definition) : Prop :=
  ∀ y ∈ x.allSelections, ∀ a ∈ y.arguments, a.value.WellSpelled

theorem Definition.WellSpelled.of_nil {x : Definition} (h : x.allSelections = []) : x.WellSpelled := by
  simp [Definition.WellSpelled, h]

/-- The numerals in the arguments of all selections of the document are well spelled. -/
def WellSpelled (d : Document) : Prop :=
  ∀ x ∈ d, x.WellSpelled

/-- The numeral that a token is, is well spelled. -/
def Token.WellSpelled : Token → Prop
  | .int digits => ∃ i, Decimal.SpellsInt digits.toList i
  | .float digits => ∃ negative r, Decimal.SpellsDecimal digits.toList negative r
  | _ => True

/-! ## Tokens -/

section
variable {cs rest : List Char} {t : Token}

theorem readDigits_ok {ds : List Char} (h : readDigits cs = .ok (ds, rest)) : ∃ n, Decimal.SpellsNat ds n := by
  rw [readDigits] at h
  split at h
  · cases h
  · rename_i hne
    cases h
    refine ⟨_, Decimal.spellsNat_of_isDigit (fun hnil => ?_) fun c hc => List.all_eq_true.mp List.all_takeWhile c hc⟩
    exact hne _ (by rw [Decimal.spanDigits, hnil])

theorem readWhole_ok {whole : List Char} (h : readWhole cs = .ok (whole, rest)) : ∃ n, Decimal.SpellsNat whole n := by
  have hzero : ∃ n, Decimal.SpellsNat ['0'] n := ⟨0, @Decimal.SpellsNat.digit 0 (by decide)⟩
  unfold readWhole at h
  split at h
  · split at h
    · split at h
      · cases h
      · cases h
        exact hzero
    · cases h
      exact hzero
  · exact readDigits_ok h

theorem readFraction_ok {fraction : List Char} (h : readFraction cs = .ok (fraction, rest)) :
    ∃ f, Decimal.SpellsFraction fraction f := by
  unfold readFraction at h
  split at h
  · obtain ⟨⟨ds, _⟩, hds, h⟩ := map_eq_ok.mp h
    cases h
    obtain ⟨n, hn⟩ := readDigits_ok hds
    exact ⟨_, .point hn⟩
  · cases h
    exact ⟨0, .none⟩

theorem readExponent_ok {exponent : List Char} (h : readExponent cs = .ok (exponent, rest)) :
    ∃ e, Decimal.SpellsExponent exponent e := by
  unfold readExponent at h
  split at h
  · cases h
    exact ⟨0, .none⟩
  · split at h
    · rename_i c _ hletter
      have he : c = 'e' ∨ c = 'E' := by simpa using hletter
      dsimp only at h
      obtain ⟨⟨ds, _⟩, hds, h⟩ := map_eq_ok.mp h
      cases h
      obtain ⟨n, hn⟩ := readDigits_ok hds
      split
      · exact ⟨n, .plus he hn⟩
      · exact ⟨-n, .letter he (.minus hn)⟩
      · exact ⟨n, .letter he (.natural hn)⟩
    · cases h
      exact ⟨0, .none⟩

/-- A numeral that is put together from its parts is well spelled. -/
theorem numeral_ok {sign whole fraction exponent more : List Char} {blocked : Bool} {n : Nat} {f : ℚ} {e : Int}
    (hsign : sign = ['-'] ∨ sign = []) (hn : Decimal.SpellsNat whole n) (hf : Decimal.SpellsFraction fraction f)
    (he : Decimal.SpellsExponent exponent e)
    (h : (if blocked = true then throw .invalidNumber
      else if (fraction.isEmpty && exponent.isEmpty) = true then pure (.int (String.ofList (sign ++ whole)), more)
      else pure (.float (String.ofList (sign ++ whole ++ fraction ++ exponent)), more) :
        Except SyntaxError (Token × List Char)) = .ok (t, rest)) :
    t.WellSpelled := by
  split at h
  · cases h
  · split at h
    · cases h
      rw [Token.WellSpelled, String.toList_ofList]
      rcases hsign with rfl | rfl
      · exact ⟨-n, .minus hn⟩
      · exact ⟨n, .natural hn⟩
    · cases h
      rw [Token.WellSpelled, String.toList_ofList, List.append_assoc, List.append_assoc]
      have hmagnitude := Decimal.SpellsMagnitude.mk hn hf he
      rcases hsign with rfl | rfl
      · exact ⟨true, _, .minus hmagnitude⟩
      · exact ⟨false, _, .plain hmagnitude⟩

theorem readNumber_ok (h : readNumber cs = .ok (t, rest)) : t.WellSpelled := by
  unfold readNumber at h
  dsimp only at h
  obtain ⟨⟨whole, _⟩, hwhole, h⟩ := bind_eq_ok.mp h
  obtain ⟨⟨fraction, _⟩, hfraction, h⟩ := bind_eq_ok.mp h
  obtain ⟨⟨exponent, _⟩, hexponent, h⟩ := bind_eq_ok.mp h
  obtain ⟨n, hn⟩ := readWhole_ok hwhole
  obtain ⟨f, hf⟩ := readFraction_ok hfraction
  obtain ⟨e, he⟩ := readExponent_ok hexponent
  refine numeral_ok ?_ hn hf he h
  split
  · exact Or.inl rfl
  · exact Or.inr rfl

theorem readString_ok {fuel : Nat} {acc : List Char} (h : readString acc fuel cs = .ok (t, rest)) : t.WellSpelled := by
  induction fuel generalizing acc cs with
  | zero => cases h
  | succ fuel ih =>
    cases cs with
    | nil => cases h
    | cons c more =>
      rw [readString] at h
      split at h
      · cases h
        trivial
      · split at h
        · cases h
        · split at h
          · split at h
            · exact ih h
            · cases h
          · exact ih h

theorem readBlock_ok {lines : List (List Char)} {line : List Char} (h : readBlock lines line cs = .ok (t, rest)) :
    t.WellSpelled := by
  fun_induction readBlock lines line cs with
  | case1 => cases h
  | case2 =>
    cases h
    trivial
  | case3 _ _ _ ih => exact ih h
  | case4 _ _ _ ih => exact ih h
  | case5 _ _ _ _ _ _ _ _ ih => exact ih h
  | case6 _ _ _ _ _ _ _ _ ih => exact ih h

theorem readToken_ok (h : readToken cs = .ok (t, rest)) : t.WellSpelled := by
  unfold readToken at h
  split at h
  · cases h
  · exact readBlock_ok h
  · cases h
    trivial
  · split at h
    · exact readString_ok h
    · split at h
      · cases h
        trivial
      · split at h
        · cases h
          trivial
        · split at h
          · exact readNumber_ok h
          · cases h

end

/-- Tokens that are well spelled. -/
def SpelledTokens (ts : List Token) : Prop := ∀ t ∈ ts, t.WellSpelled

theorem tokensFrom_ok {acc : List Token} {fuel : Nat} {cs : List Char} {ts : List Token} (hacc : SpelledTokens acc)
    (h : tokensFrom acc fuel cs = .ok ts) : SpelledTokens ts := by
  have hdone : SpelledTokens acc.reverse := fun t ht => hacc t (List.mem_reverse.mp ht)
  induction fuel generalizing acc cs with
  | zero =>
    cases h
    exact hdone
  | succ fuel ih =>
    cases cs with
    | nil =>
      cases h
      exact hdone
    | cons c rest =>
      rw [tokensFrom] at h
      split at h
      · exact ih hacc h hdone
      · split at h
        · exact ih hacc h hdone
        · split at h
          · rename_i token more hread
            have hnext : SpelledTokens (token :: acc) := List.forall_mem_cons.mpr ⟨readToken_ok hread, hacc⟩
            exact ih hnext h fun t ht => hnext t (List.mem_reverse.mp ht)
          · cases h

/-- The numerals in the tokens of a text are well spelled. -/
theorem tokens_ok {s : String} {ts : List Token} (h : tokens s = .ok ts) : SpelledTokens ts :=
  tokensFrom_ok (fun _ ht => absurd ht List.not_mem_nil) h

theorem SpelledTokens.tail {t : Token} {ts : List Token} (h : SpelledTokens (t :: ts)) : SpelledTokens ts :=
  fun x hx => h x (List.mem_cons_of_mem t hx)

/-! ## Readers -/

namespace Parser

variable {α β : Type} {p q : Parser α} {f : α → Parser β} {P : α → Prop} {Q : β → Prop}

/-- From well-spelled tokens the parser reads nothing without the property, and leaves well-spelled tokens. -/
def Yields (p : Parser α) (P : α → Prop) : Prop :=
  ∀ ts a ts', SpelledTokens ts → p.run ts = .ok (a, ts') → P a ∧ SpelledTokens ts'

/-- From well-spelled tokens the parser leaves well-spelled tokens. -/
def Keeps (p : Parser α) : Prop := Yields p fun _ => True

theorem yields_pure {a : α} (h : P a) : Yields (pure a) P := by
  intro ts _ _ hts hrun
  cases hrun
  exact ⟨h, hts⟩

theorem keeps_pure (a : α) : Keeps (pure a : Parser α) := yields_pure trivial

theorem yields_unexpected : Yields (unexpected : Parser α) P := by
  intro ts _ _ _ hrun
  cases hrun

theorem yields_get : Yields (get : Parser (List Token)) SpelledTokens := by
  intro ts _ _ hts hrun
  cases hrun
  exact ⟨hts, hts⟩

theorem keeps_set {ts : List Token} (h : SpelledTokens ts) : Keeps (set ts : Parser PUnit) := by
  intro _ _ _ _ hrun
  cases hrun
  exact ⟨trivial, h⟩

/-- One parser after another. -/
theorem Yields.bind (h : Yields p P) (hf : ∀ a, P a → Yields (f a) Q) : Yields (p >>= f) Q := by
  intro ts b ts' hts hrun
  rw [StateT.run_bind] at hrun
  obtain ⟨⟨a, middle⟩, hp, hrest⟩ := bind_eq_ok.mp hrun
  obtain ⟨ha, hmiddle⟩ := h ts a middle hts hp
  exact hf a ha middle b ts' hmiddle hrest

theorem Keeps.bind (h : Keeps p) (hf : ∀ a, Yields (f a) Q) : Yields (p >>= f) Q := Yields.bind h fun a _ => hf a

theorem Yields.mono {P' : α → Prop} (h : Yields p P) (himp : ∀ a, P a → P' a) : Yields p P' :=
  fun ts a ts' hts hrun => (h ts a ts' hts hrun).imp_left (himp a)

theorem Yields.keeps (h : Yields p P) : Keeps p := h.mono fun _ _ => trivial

theorem Yields.map {g : α → β} (h : Yields p P) (hg : ∀ a, P a → Q (g a)) : Yields (g <$> p) Q := by
  rw [map_eq_pure_bind]
  exact h.bind fun a ha => yields_pure (hg a ha)

theorem Yields.ite {c : Prop} [Decidable c] (h : Yields p P) (h' : Yields q P) : Yields (if c then p else q) P := by
  split
  · exact h
  · exact h'

/-! ## Single tokens -/

theorem keeps_peek? : Keeps peek? := yields_get.keeps.bind fun _ => keeps_pure _

theorem keeps_peeks (t : Token) : Keeps (peeks t) := keeps_peek?.bind fun _ => keeps_pure _

theorem keeps_skip? (t : Token) : Keeps (skip? t) := by
  refine yields_get.bind fun ts hts => ?_
  split
  · exact .ite ((keeps_set hts.tail).bind fun _ => keeps_pure _) (keeps_pure _)
  · exact keeps_pure _

theorem keeps_expect (t : Token) : Keeps (expect t) :=
  (keeps_skip? t).bind fun _ => .ite yields_unexpected (keeps_pure _)

theorem keeps_expectMark (c : Char) : Keeps (expectMark c) := keeps_expect _

theorem keeps_skipMark? (c : Char) : Keeps (skipMark? c) := keeps_skip? _

theorem keeps_expectWord (word : String) : Keeps (expectWord word) := keeps_expect _

theorem keeps_skipWord? (word : String) : Keeps (skipWord? word) := keeps_skip? _

theorem keeps_name : Keeps name := by
  refine yields_get.bind fun ts hts => ?_
  split
  · exact (keeps_set hts.tail).bind fun _ => keeps_pure _
  · exact yields_unexpected

/-! ## Items -/

theorem yields_nil : Yields (pure [] : Parser (List α)) (∀ a ∈ ·, P a) :=
  yields_pure fun _ h => absurd h List.not_mem_nil

/-- An item before others. -/
theorem Yields.cons {items : Parser (List α)} {a : α} (h : Yields items (∀ a ∈ ·, P a)) (ha : P a) :
    Yields (items >>= fun more => pure (a :: more)) (∀ a ∈ ·, P a) :=
  h.bind fun _ hmore => yields_pure (List.forall_mem_cons.mpr ⟨ha, hmore⟩)

theorem yields_untilMark (close : Char) (h : Yields p P) (fuel : Nat) : Yields (untilMark close p fuel) (∀ a ∈ ·, P a) := by
  induction fuel with
  | zero => exact yields_unexpected
  | succ fuel ih => exact (keeps_skipMark? close).bind fun _ => .ite yields_nil (h.bind fun _ ha => ih.cons ha)

theorem yields_between (first close : Char) (h : Yields p P) : Yields (between first close p) (∀ a ∈ ·, P a) :=
  (keeps_expectMark first).bind fun _ => yields_get.bind fun _ _ => yields_untilMark close h _

theorem yields_manyBetween (first close : Char) (h : Yields p P) : Yields (manyBetween first close p) (∀ a ∈ ·, P a) :=
  (keeps_expectMark first).bind fun _ =>
    h.bind fun _ ha => yields_get.bind fun _ _ => (yields_untilMark close h _).cons ha

theorem yields_optionalBetween (first close : Char) (h : Yields p P) :
    Yields (optionalBetween first close p) (∀ a ∈ ·, P a) :=
  (keeps_peeks _).bind fun _ => .ite (yields_manyBetween first close h) yields_nil

theorem keeps_separatedRest (mark : Char) (h : Keeps p) (fuel : Nat) : Keeps (separatedRest mark p fuel) := by
  induction fuel with
  | zero => exact keeps_pure _
  | succ fuel ih =>
    exact (keeps_skipMark? mark).bind fun _ => .ite (h.bind fun _ => ih.bind fun _ => keeps_pure _) (keeps_pure _)

theorem keeps_separated (mark : Char) (h : Keeps p) : Keeps (separated mark p) :=
  (keeps_skipMark? mark).bind fun _ => h.bind fun _ => yields_get.keeps.bind fun _ =>
    (keeps_separatedRest mark h _).bind fun _ => keeps_pure _

theorem yields_whileMark (mark : Char) (h : Yields p P) (fuel : Nat) : Yields (whileMark mark p fuel) (∀ a ∈ ·, P a) := by
  induction fuel with
  | zero => exact yields_nil
  | succ fuel ih => exact (keeps_peeks _).bind fun _ => .ite (h.bind fun _ ha => ih.cons ha) yields_nil

/-! ## Values and types -/

theorem keeps_variableName : Keeps variableName := (keeps_expectMark _).bind fun _ => keeps_name

theorem yields_plainValue (constant : Bool) : Yields (plainValue constant) Literal.WellSpelled := by
  refine yields_get.bind fun ts hts => ?_
  split
  · exact .ite yields_unexpected (keeps_variableName.bind fun _ => yields_pure trivial)
  · exact (keeps_set hts.tail).bind fun _ => yields_pure (hts _ List.mem_cons_self)
  · exact (keeps_set hts.tail).bind fun _ => yields_pure (hts _ List.mem_cons_self)
  · exact (keeps_set hts.tail).bind fun _ => yields_pure trivial
  · exact (keeps_set hts.tail).bind fun _ => yields_pure trivial
  · refine (keeps_set hts.tail).bind fun _ => ?_
    split <;> exact yields_pure trivial
  · exact yields_unexpected

theorem allWellSpelled_iff {items : List Literal} : allWellSpelled items ↔ ∀ l ∈ items, l.WellSpelled := by
  induction items with
  | nil => simp [allWellSpelled]
  | cons l items ih => simp [allWellSpelled, ih]

theorem fieldsWellSpelled_iff {fields : List (String × Literal)} :
    fieldsWellSpelled fields ↔ ∀ f ∈ fields, f.2.WellSpelled := by
  induction fields with
  | nil => simp [fieldsWellSpelled]
  | cons f fields ih => simp [fieldsWellSpelled, ih]

theorem yields_value (constant : Bool) (room : Nat) : Yields (value constant room) Literal.WellSpelled := by
  induction room with
  | zero => exact yields_plainValue constant
  | succ room ih =>
    refine yields_get.bind fun ts _ => ?_
    split
    · exact (yields_between _ _ ih).bind fun _ hitems => yields_pure (allWellSpelled_iff.mpr hitems)
    · have hfield : Yields (do let n ← name; expectMark ':'; return (n, ← value constant room)) fun f => f.2.WellSpelled :=
        keeps_name.bind fun _ => (keeps_expectMark _).bind fun _ => ih.bind fun _ hl => yields_pure hl
      exact (yields_between _ _ hfield).bind fun _ hfields => yields_pure (fieldsWellSpelled_iff.mpr hfields)
    · exact yields_plainValue constant

theorem keeps_namedTypeRef : Keeps namedTypeRef :=
  keeps_name.bind fun _ => (keeps_skipMark? _).bind fun _ => keeps_pure _

theorem keeps_typeRef (room : Nat) : Keeps (typeRef room) := by
  induction room with
  | zero => exact keeps_namedTypeRef
  | succ room ih =>
    exact (keeps_skipMark? _).bind fun _ =>
      .ite (ih.bind fun _ => (keeps_expectMark _).bind fun _ => (keeps_skipMark? _).bind fun _ => keeps_pure _)
        keeps_namedTypeRef

theorem yields_arguments (constant : Bool) (room : Nat) :
    Yields (arguments constant room) (∀ a ∈ ·, a.value.WellSpelled) := by
  have hargument : Yields (argument constant room) (·.value.WellSpelled) :=
    keeps_name.bind fun _ => (keeps_expectMark _).bind fun _ => yields_get.bind fun _ _ =>
      (yields_value constant room).bind fun _ hl => yields_pure hl
  exact yields_optionalBetween _ _ hargument

theorem keeps_directivesIn (constant : Bool) (room : Nat) : Keeps (directivesIn constant room) := by
  have hdirective : Keeps (directive constant room) :=
    (keeps_expectMark _).bind fun _ => keeps_name.bind fun _ => (yields_arguments constant room).keeps.bind fun _ =>
      keeps_pure _
  exact yields_get.keeps.bind fun _ => (yields_whileMark _ hdirective _).keeps

theorem keeps_directives (constant : Bool) : Keeps (directives constant) := keeps_directivesIn constant _

theorem keeps_fallback : Keeps fallback :=
  (keeps_skipMark? _).bind fun _ => .ite ((yields_value _ _).keeps.bind fun _ => keeps_pure _) (keeps_pure _)

theorem keeps_description : Keeps description := by
  refine yields_get.bind fun ts hts => ?_
  split
  · exact (keeps_set hts.tail).bind fun _ => keeps_pure _
  · exact (keeps_set hts.tail).bind fun _ => keeps_pure _
  · exact keeps_pure _

/-! ## Executable definitions -/

theorem keeps_fragmentName : Keeps fragmentName :=
  keeps_name.bind fun _ => .ite yields_unexpected (keeps_pure _)

theorem yields_afterDots (room : Nat) {selections : Parser (List Selection)} (h : Yields selections SpelledSelections) :
    Yields (afterDots room selections) fun x => SpelledSelections [x] := by
  refine (keeps_skipWord? _).bind fun _ => .ite ?_ (yields_get.bind fun ts _ => ?_)
  · exact keeps_name.bind fun _ => (keeps_directivesIn _ _).bind fun _ => h.bind fun _ hsub =>
      yields_pure (spelledSelections_inline.mpr hsub)
  · split
    · exact keeps_fragmentName.bind fun _ => (keeps_directivesIn _ _).bind fun _ => yields_pure spelledSelections_spread
    · exact (keeps_directivesIn _ _).bind fun _ => h.bind fun _ hsub => yields_pure (spelledSelections_inline.mpr hsub)

theorem yields_field (room : Nat) {selections : Parser (List Selection)} (h : Yields selections SpelledSelections) :
    Yields (field room selections) fun x => SpelledSelections [x] := by
  have hsub : Yields (some <$> selections) (fun sub => ∀ inner, sub = some inner → SpelledSelections inner) :=
    h.map fun inner hinner _ heq => Option.some.inj heq ▸ hinner
  -- what follows the name, whatever that is
  have hrest : ∀ label n, Yields (do
      let args ← arguments false room
      let ds ← directivesIn false room
      let sub ← if ← peeks (.mark '\x7b') then some <$> selections else pure none
      return .field label n args ds sub) fun x => SpelledSelections [x] := fun label n =>
    (yields_arguments _ _).bind fun _ hargs => (keeps_directivesIn _ _).bind fun _ => (keeps_peeks _).bind fun _ =>
      .ite (hsub.bind fun _ hsub => yields_pure (spelledSelections_field.mpr ⟨hargs, hsub⟩))
        (yields_pure (spelledSelections_field.mpr ⟨hargs, fun _ heq => by cases heq⟩))
  exact keeps_name.bind fun _ => (keeps_skipMark? _).bind fun _ =>
    .ite (keeps_name.bind fun _ => hrest _ _) (hrest _ _)

theorem yields_selectionSet (room : Nat) : Yields (selectionSet room) SpelledSelections := by
  induction room with
  | zero => exact yields_unexpected
  | succ room ih =>
    have hitems : Yields (selectionSet (room + 1)) (∀ x ∈ ·, SpelledSelections [x]) :=
      yields_between _ _ ((keeps_skip? _).bind fun _ => .ite (yields_afterDots room ih) (yields_field room ih))
    exact hitems.mono fun _ h => spelledSelections_iff.mpr h

theorem keeps_variableDefinition : Keeps variableDefinition :=
  keeps_description.bind fun _ => keeps_variableName.bind fun _ => (keeps_expectMark _).bind fun _ =>
    (keeps_typeRef _).bind fun _ => keeps_fallback.bind fun _ => (keeps_directives _).bind fun _ => keeps_pure _

theorem keeps_operationKind : Keeps operationKind := by
  refine keeps_name.bind fun _ => ?_
  split
  · exact keeps_pure _
  · exact keeps_pure _
  · exact keeps_pure _
  · exact yields_unexpected

theorem yields_operation : Yields operation fun o => SpelledSelections o.selections := by
  have hset : Yields anySelectionSet SpelledSelections := yields_selectionSet _
  have hname : Keeps (some <$> name) := Yields.map keeps_name fun _ _ => trivial
  have hrest : ∀ d kind n, Yields (do
      let vs ← optionalBetween '(' ')' variableDefinition
      let ds ← directives false
      return (⟨d, kind, n, vs, ds, ← anySelectionSet⟩ : OperationDefinition)) fun o => SpelledSelections o.selections :=
    fun d kind n => (yields_optionalBetween _ _ keeps_variableDefinition).keeps.bind fun _ =>
      (keeps_directives _).bind fun _ => hset.bind fun _ h => yields_pure h
  refine (keeps_peeks _).bind fun _ => .ite (hset.bind fun _ h => yields_pure h) ?_
  refine keeps_description.bind fun _ => keeps_operationKind.bind fun _ => keeps_peek?.bind fun next => ?_
  dsimp only
  split
  · exact hname.bind fun _ => hrest _ _ _
  · exact hrest _ _ _

theorem yields_fragment : Yields fragment fun f => SpelledSelections f.selections :=
  keeps_description.bind fun _ => (keeps_expectWord _).bind fun _ => keeps_fragmentName.bind fun _ =>
    (keeps_expectWord _).bind fun _ => keeps_name.bind fun _ => (keeps_directives _).bind fun _ =>
      (yields_selectionSet _).bind fun _ h => yields_pure h

/-! ## Type system definitions -/

theorem keeps_rootType : Keeps rootType :=
  keeps_operationKind.bind fun _ => (keeps_expectMark _).bind fun _ => keeps_name.bind fun _ => keeps_pure _

theorem keeps_schemaDefinition : Keeps schemaDefinition :=
  keeps_description.bind fun _ => (keeps_expectWord _).bind fun _ => (keeps_directives _).bind fun _ =>
    (yields_manyBetween _ _ keeps_rootType).keeps.bind fun _ => keeps_pure _

theorem keeps_inputValue : Keeps inputValue :=
  keeps_description.bind fun _ => keeps_name.bind fun _ => (keeps_expectMark _).bind fun _ =>
    (keeps_typeRef _).bind fun _ => keeps_fallback.bind fun _ => (keeps_directives _).bind fun _ => keeps_pure _

theorem keeps_fieldDefinition : Keeps fieldDefinition :=
  keeps_description.bind fun _ => keeps_name.bind fun _ => (yields_optionalBetween _ _ keeps_inputValue).keeps.bind fun _ =>
    (keeps_expectMark _).bind fun _ => (keeps_typeRef _).bind fun _ => (keeps_directives _).bind fun _ => keeps_pure _

theorem keeps_enumValue : Keeps enumValue :=
  keeps_description.bind fun _ => keeps_name.bind fun _ =>
    .ite yields_unexpected ((keeps_directives _).bind fun _ => keeps_pure _)

theorem keeps_interfaces : Keeps interfaces :=
  (keeps_skipWord? _).bind fun _ => .ite (keeps_separated _ keeps_name) (keeps_pure _)

theorem keeps_fieldDefinitions : Keeps fieldDefinitions := (yields_optionalBetween _ _ keeps_fieldDefinition).keeps

theorem keeps_typeBody (d : Option Description) (kind : String) : Keeps (typeBody d kind) := by
  refine keeps_name.bind fun _ => ?_
  split
  · exact (keeps_directives _).bind fun _ => keeps_pure _
  · exact keeps_interfaces.bind fun _ => (keeps_directives _).bind fun _ => keeps_fieldDefinitions.bind fun _ => keeps_pure _
  · exact keeps_interfaces.bind fun _ => (keeps_directives _).bind fun _ => keeps_fieldDefinitions.bind fun _ => keeps_pure _
  · exact (keeps_directives _).bind fun _ => (keeps_skipMark? _).bind fun _ =>
      .ite ((keeps_separated _ keeps_name).bind fun _ => keeps_pure _) (keeps_pure _)
  · exact (keeps_directives _).bind fun _ => (yields_optionalBetween _ _ keeps_enumValue).keeps.bind fun _ => keeps_pure _
  · exact (keeps_directives _).bind fun _ => (yields_optionalBetween _ _ keeps_inputValue).keeps.bind fun _ => keeps_pure _
  · exact yields_unexpected

theorem keeps_location : Keeps location := by
  refine keeps_name.bind fun _ => ?_
  split
  · exact keeps_pure _
  · exact yields_unexpected

theorem keeps_directiveDefinition : Keeps directiveDefinition :=
  keeps_description.bind fun _ => (keeps_expectWord _).bind fun _ => (keeps_expectMark _).bind fun _ =>
    keeps_name.bind fun _ => (yields_optionalBetween _ _ keeps_inputValue).keeps.bind fun _ =>
      (keeps_directives _).bind fun _ => (keeps_skipWord? _).bind fun _ => (keeps_expectWord _).bind fun _ =>
        (keeps_separated _ keeps_location).bind fun _ => keeps_pure _

/-! ## Documents -/

theorem yields_extension : Yields extension Definition.WellSpelled := by
  refine (keeps_expectWord _).bind fun _ => keeps_name.bind fun _ => .ite ?_ (.ite ?_ (.ite ?_ yields_unexpected))
  · exact (keeps_directives _).bind fun _ => (yields_optionalBetween _ _ keeps_rootType).keeps.bind fun _ =>
      .ite yields_unexpected (yields_pure (.of_nil rfl))
  · exact (keeps_typeBody _ _).bind fun _ => .ite yields_unexpected (yields_pure (.of_nil rfl))
  · exact (keeps_expectMark _).bind fun _ => keeps_name.bind fun _ => (keeps_directives _).bind fun _ =>
      .ite yields_unexpected (yields_pure (.of_nil rfl))

theorem yields_definition : Yields definition Definition.WellSpelled := by
  refine yields_get.bind fun ts _ => .ite ?_ (.ite ?_ (.ite ?_ (.ite ?_ (.ite ?_ (.ite yields_unexpected
    (.ite yields_extension (.ite ?_ yields_unexpected)))))))
  · exact keeps_schemaDefinition.bind fun _ => yields_pure (.of_nil rfl)
  · exact keeps_description.bind fun _ => keeps_name.bind fun _ => (keeps_typeBody _ _).bind fun _ => yields_pure (.of_nil rfl)
  · exact keeps_directiveDefinition.bind fun _ => yields_pure (.of_nil rfl)
  · exact yields_fragment.bind fun _ h => yields_pure h
  · exact yields_operation.bind fun _ h => yields_pure h
  · exact yields_operation.bind fun _ h => yields_pure h

theorem yields_definitions (fuel : Nat) : Yields (definitions fuel) WellSpelled := by
  induction fuel with
  | zero => exact yields_unexpected
  | succ fuel ih => exact yields_get.bind fun _ _ => .ite yields_nil (yields_definition.bind fun _ h => ih.cons h)

theorem yields_document : Yields document WellSpelled :=
  yields_definition.bind fun _ h => yields_get.bind fun _ _ => (yields_definitions _).cons h

end Parser

/-- The numerals of a document that was read are well spelled. -/
theorem parse_wellSpelled {s : String} {d : Document} (h : parse s = .ok d) : WellSpelled d := by
  obtain ⟨ts, hts, h⟩ := bind_eq_ok.mp h
  obtain ⟨⟨d', rest⟩, hrun, h⟩ := bind_eq_ok.mp h
  cases h
  exact (Parser.yields_document ts d' rest (tokens_ok hts) hrun).1

/-! ## Insertion of `__typename` -/

theorem SpelledSelections.leadTypename {xs : List Selection} (h : SpelledSelections xs) :
    SpelledSelections (leadTypename xs) := by
  rw [Language.leadTypename, spelledSelections_iff, List.forall_mem_cons]
  refine ⟨by simp [Selection.typename, spelledSelections_field], fun x hx => ?_⟩
  exact spelledSelections_iff.mp h x (List.mem_of_mem_filter hx)

mutual

theorem SpelledSelections.addTypename : ∀ {x : Selection}, SpelledSelections [x] → SpelledSelections [x.addTypename]
  | .field _ _ _ _ none, h => h
  | .field _ _ _ _ (some _), h => by
    obtain ⟨hargs, hsub⟩ := spelledSelections_field.mp h
    refine spelledSelections_field.mpr ⟨hargs, fun inner hinner => ?_⟩
    cases hinner
    exact (hsub _ rfl).addTypenames.leadTypename
  | .spread _ _, h => h
  | .inline _ _ _, h => spelledSelections_inline.mpr (spelledSelections_inline.mp h).addTypenames

theorem SpelledSelections.addTypenames : ∀ {xs : List Selection}, SpelledSelections xs → SpelledSelections (addTypenames xs)
  | [], h => h
  | _ :: _, h => by
    obtain ⟨hx, hrest⟩ := spelledSelections_cons.mp h
    exact spelledSelections_cons.mpr ⟨hx.addTypename, hrest.addTypenames⟩

end

/-- Numerals stay well spelled where `__typename` is inserted. -/
theorem WellSpelled.addTypename {d : Document} (h : WellSpelled d) : WellSpelled (addTypename d) := by
  intro x hx
  obtain ⟨y, hy, rfl⟩ := List.mem_map.mp hx
  have hspelled := h y hy
  cases y with
  | operation o => exact SpelledSelections.addTypenames hspelled
  | fragment f => exact (SpelledSelections.addTypenames hspelled).leadTypename
  | _ => exact hspelled

end TypedOperations.Language
