import TypedOperations.Proofs.Entries
import TypedOperations.Proofs.Language.Spelling
import TypedOperations.Selection.Resolve

/-!
# What literals denote

The values of literals by the rules of the query language, whatever reads them: a numeral denotes the integer that it spells, or
the double precision number nearest to the fraction that it spells; an object denotes a map from its names, each in the place
where it comes first and with the value that it has last; variables stay variables, and the value of an enum is its name.
Literals denote at most one value (`Denotes.unique`), those whose numerals are well spelled denote one, and resolving gives it
(`denotes_of_value`).
-/

namespace TypedOperations.Language

mutual

/-- A literal denotes a value. -/
inductive Denotes : Literal → Value → Prop where
  | var {name : String} : Denotes (.var name) (.var name)
  | int {digits : String} {i : Int} : Decimal.SpellsInt digits.toList i → Denotes (.int digits) (.int i)
  | float {digits : String} {negative : Bool} {r : ℚ} {x : Binary64} : Decimal.SpellsDecimal digits.toList negative r →
      Binary64.Nearest negative r x → Denotes (.float digits) (.float x)
  | string {s : String} {block : Bool} : Denotes (.string s block) (.string s)
  | bool {b : Bool} : Denotes (.bool b) (.bool b)
  | null : Denotes .null .null
  | enum {name : String} : Denotes (.enum name) (.string name)
  | list {items : List Literal} {vs : List Value} : DenoteAll items vs → Denotes (.list items) (.list vs)
  | object {fields : List (String × Literal)} {pairs : List (String × Value)} {entries : Entries Value} :
      FieldsDenote fields pairs → Entries.LastOfEach pairs entries → Denotes (.object fields) (.keyed entries)

/-- Literals denote values, one by one. -/
inductive DenoteAll : List Literal → List Value → Prop where
  | nil : DenoteAll [] []
  | cons {l : Literal} {v : Value} {items : List Literal} {vs : List Value} : Denotes l v → DenoteAll items vs →
      DenoteAll (l :: items) (v :: vs)

/-- The fields of an object denote named values, one by one. -/
inductive FieldsDenote : List (String × Literal) → List (String × Value) → Prop where
  | nil : FieldsDenote [] []
  | cons {name : String} {l : Literal} {v : Value} {fields : List (String × Literal)} {pairs : List (String × Value)} :
      Denotes l v → FieldsDenote fields pairs → FieldsDenote ((name, l) :: fields) ((name, v) :: pairs)

end

/-- An argument denotes a named value. -/
def Argument.Denotes (a : Argument) (v : TypedOperations.Argument) : Prop :=
  v.name = a.name ∧ Language.Denotes a.value v.value

/-! ## One value -/

mutual

/-- A literal denotes one value. -/
theorem Denotes.unique : ∀ {l : Literal} {v v' : Value}, Denotes l v → Denotes l v' → v = v'
  | .var _, _, _, h, h' => by cases h; cases h'; rfl
  | .int _, _, _, h, h' => by
    cases h with
    | int h =>
      cases h' with
      | int h' => rw [← h.intOfText, h'.intOfText]
  | .float _, _, _, h, h' => by
    cases h with
    | float h hnear =>
      cases h' with
      | float h' hnear' =>
        obtain ⟨y, hy, hread⟩ := h.binary64OfText
        obtain ⟨y', hy', hread'⟩ := h'.binary64OfText
        cases hy.symm.trans hy'
        rw [hnear.unique hread, hnear'.unique hread']
  | .string _ _, _, _, h, h' => by cases h; cases h'; rfl
  | .bool _, _, _, h, h' => by cases h; cases h'; rfl
  | .null, _, _, h, h' => by cases h; cases h'; rfl
  | .enum _, _, _, h, h' => by cases h; cases h'; rfl
  | .list _, _, _, h, h' => by
    cases h with
    | list h =>
      cases h' with
      | list h' => rw [h.unique h']
  | .object _, _, _, h, h' => by
    cases h with
    | object h hlast =>
      cases h' with
      | object h' hlast' =>
        cases h.unique h'
        rw [hlast.unique default hlast']

theorem DenoteAll.unique : ∀ {items : List Literal} {vs vs' : List Value}, DenoteAll items vs → DenoteAll items vs' → vs = vs'
  | [], _, _, h, h' => by cases h; cases h'; rfl
  | _ :: _, _, _, h, h' => by
    cases h with
    | cons h hrest =>
      cases h' with
      | cons h' hrest' => rw [h.unique h', hrest.unique hrest']

theorem FieldsDenote.unique : ∀ {fields : List (String × Literal)} {pairs pairs' : List (String × Value)},
    FieldsDenote fields pairs → FieldsDenote fields pairs' → pairs = pairs'
  | [], _, _, h, h' => by cases h; cases h'; rfl
  | (_, _) :: _, _, _, h, h' => by
    cases h with
    | cons h hrest =>
      cases h' with
      | cons h' hrest' => rw [h.unique h', hrest.unique hrest']

end

/-! ## The value that resolving gives -/

open Resolve (value values fieldValues)

mutual

/-- A literal with well-spelled numerals denotes the value that resolving gives. -/
theorem denotes_of_value : ∀ {l : Literal} {v : Value}, l.WellSpelled → value l = .ok v → Denotes l v
  | .var _, _, _, h => by cases h; exact .var
  | .int digits, _, ⟨i, hi⟩, h => by
    rw [value] at h
    split at h
    · cases h
    · cases h
      rw [hi.intOfText]
      exact .int hi
  | .float digits, _, ⟨negative, r, hr⟩, h => by
    obtain ⟨x, hx, hnear⟩ := hr.binary64OfText
    rw [value, hx] at h
    cases h
    exact .float hr hnear
  | .string _ _, _, _, h => by cases h; exact .string
  | .bool _, _, _, h => by cases h; exact .bool
  | .null, _, _, h => by cases h; exact .null
  | .enum _, _, _, h => by cases h; exact .enum
  | .list items, _, hl, h => by
    rw [value] at h
    obtain ⟨vs, hvs, h⟩ := bind_eq_ok.mp h
    cases h
    exact .list (denoteAll_of_values hl hvs)
  | .object fields, _, hl, h => by
    rw [value] at h
    obtain ⟨pairs, hpairs, h⟩ := bind_eq_ok.mp h
    cases h
    exact .object (fieldsDenote_of_fieldValues hl hpairs) (Entries.ofPairs_lastOfEach pairs)

theorem denoteAll_of_values : ∀ {items : List Literal} {vs : List Value}, allWellSpelled items → values items = .ok vs →
    DenoteAll items vs
  | [], _, _, h => by cases h; exact .nil
  | l :: items, _, ⟨hl, hitems⟩, h => by
    rw [values] at h
    obtain ⟨v, hv, h⟩ := bind_eq_ok.mp h
    obtain ⟨vs, hvs, h⟩ := bind_eq_ok.mp h
    cases h
    exact .cons (denotes_of_value hl hv) (denoteAll_of_values hitems hvs)

theorem fieldsDenote_of_fieldValues : ∀ {fields : List (String × Literal)} {pairs : List (String × Value)},
    fieldsWellSpelled fields → fieldValues fields = .ok pairs → FieldsDenote fields pairs
  | [], _, _, h => by cases h; exact .nil
  | (name, l) :: fields, _, ⟨hl, hfields⟩, h => by
    rw [fieldValues] at h
    obtain ⟨v, hv, h⟩ := bind_eq_ok.mp h
    obtain ⟨pairs, hpairs, h⟩ := bind_eq_ok.mp h
    cases h
    exact .cons (denotes_of_value hl hv) (fieldsDenote_of_fieldValues hfields hpairs)

end

/-! ## Arguments -/

/-- Arguments denote one list of named values. -/
theorem argumentsDenote_unique {args : List Argument} {vs vs' : List TypedOperations.Argument}
    (h : List.Forall₂ Argument.Denotes args vs) (h' : List.Forall₂ Argument.Denotes args vs') : vs = vs' := by
  induction h generalizing vs' with
  | nil =>
    cases h'
    rfl
  | @cons _ v _ _ h _ ih =>
    cases h' with
    | @cons _ v' _ _ h' hrest' =>
      obtain ⟨name, value⟩ := v
      obtain ⟨name', value'⟩ := v'
      obtain rfl : name = name' := h.1.trans h'.1.symm
      obtain rfl : value = value' := h.2.unique h'.2
      rw [ih hrest']

/-- Arguments with well-spelled numerals denote the values that resolving gives. -/
theorem argumentsDenote_of_resolve {args : List Argument} :
    ∀ {vs : List TypedOperations.Argument}, (∀ a ∈ args, a.value.WellSpelled) → Resolve.arguments args = .ok vs →
      List.Forall₂ Argument.Denotes args vs := by
  induction args with
  | nil =>
    intro vs _ h
    cases h
    exact .nil
  | cons a rest ih =>
    intro vs hspelled h
    obtain ⟨ha, hrest⟩ := List.forall_mem_cons.mp hspelled
    rw [Resolve.arguments] at h
    obtain ⟨v, hv, h⟩ := bind_eq_ok.mp h
    obtain ⟨more, hmore, h⟩ := bind_eq_ok.mp h
    cases h
    exact .cons ⟨rfl, denotes_of_value ha hv⟩ (ih hrest hmore)

end TypedOperations.Language
