import TypedOperations.Proofs.Execution.Denotation
import TypedOperations.Proofs.Selection.Resolving

/-!
# Executing a document

Which fields a selection set of a document gives for an object type, by the rules for collecting fields of the query
language: a selection is left out if its directives say so, an inline fragment and a fragment spread are entered if the
object type satisfies their type condition, and a fragment that was spread once is not spread again. A response has one field
for each key, the first that is collected (`firstFields`).
-/

namespace TypedOperations

/-- A field of a response: its key, the name of the field that is asked for, and the values of its arguments. -/
structure ResponseField where
  key : String
  name : String
  arguments : List Argument

/-! ## Which selections apply -/

namespace Language

/-- What the argument of a condition says, with values for the variables. -/
def Directive.holds (values : String → Bool) (d : Directive) : Bool :=
  match d.arguments.find? (·.name == "if") with
  | some a =>
    match a.value with
    | .var name => values name
    | .bool b => b
    | _ => false
  | none => false

/-- A selection with these directives is included: the condition to skip it does not hold, and that to include it does. -/
def included (values : String → Bool) (ds : List Directive) : Bool :=
  !(ds.find? (·.name == "skip")).any (·.holds values) && (ds.find? (·.name == "include")).all (·.holds values)

/-- The directives say at most once when to skip and at most once when to include, each by a variable or a truth value. -/
structure PlainConditions (ds : List Directive) : Prop where
  skip_once : (ds.filter (·.name == "skip")).length ≤ 1
  include_once : (ds.filter (·.name == "include")).length ≤ 1
  decided : ∀ d ∈ ds, d.name = "include" ∨ d.name = "skip" →
    ∃ a, d.arguments.find? (·.name == "if") = some a ∧ ((∃ name, a.value = .var name) ∨ ∃ b, a.value = .bool b)

/-- All selections of the document, nested ones included, have plain conditions. -/
def PlainDocument (d : Document) : Prop :=
  ∀ x ∈ d, ∀ y ∈ x.allSelections, PlainConditions y.directives

end Language

/-- An object type satisfies a type condition: it is that type, implements that interface or is a member of that union. -/
def Schema.Satisfies (s : Schema) (type condition : String) : Prop :=
  ∃ t, s.type? condition = some t ∧
    match t.body with
    | .object .. => type = condition
    | .interface .. => ∃ o ∈ s.types, o.kind = .object ∧ o.name = type ∧ condition ∈ o.interfaces
    | .union members => type ∈ members
    | _ => False

/-! ## Collecting fields -/

/-- On an object type, with values for the variables and with the fragments in `visited` spread before, selections give these
fields in this order, and leave the last list as the fragments spread so far. -/
inductive Collects (s : Schema) (d : Language.Document) (values : String → Bool) (type : String) :
    List String → List Language.Selection → List String → List ResponseField → Prop where
  | nil {visited : List String} : Collects s d values type visited [] visited []
  | excluded {visited visited' : List String} {x : Language.Selection} {rest : List Language.Selection}
      {out : List ResponseField} :
      Language.included values x.directives = false → Collects s d values type visited rest visited' out →
        Collects s d values type visited (x :: rest) visited' out
  | field {visited visited' : List String} {label : Option String} {name : String} {args : List Language.Argument}
      {ds : List Language.Directive} {sub : Option (List Language.Selection)} {rest : List Language.Selection}
      {argValues : List Argument} {out : List ResponseField} :
      Language.included values ds = true → List.Forall₂ Language.Argument.Denotes args argValues →
      Collects s d values type visited rest visited' out →
        Collects s d values type visited (.field label name args ds sub :: rest) visited'
          (⟨label.getD name, name, argValues⟩ :: out)
  | againSpread {visited visited' : List String} {name : String} {ds : List Language.Directive}
      {rest : List Language.Selection} {out : List ResponseField} :
      Language.included values ds = true → name ∈ visited → Collects s d values type visited rest visited' out →
        Collects s d values type visited (.spread name ds :: rest) visited' out
  | passSpread {visited visited' : List String} {name : String} {ds : List Language.Directive}
      {rest : List Language.Selection} {out : List ResponseField} :
      Language.included values ds = true → name ∉ visited →
      (∀ f, Language.fragment? name d = some f → ¬s.Satisfies type f.condition) →
      Collects s d values type (name :: visited) rest visited' out →
        Collects s d values type visited (.spread name ds :: rest) visited' out
  | enterSpread {visited middle visited' : List String} {name : String} {ds : List Language.Directive}
      {f : Language.FragmentDefinition} {rest : List Language.Selection} {inner out : List ResponseField} :
      Language.included values ds = true → name ∉ visited → Language.fragment? name d = some f →
      s.Satisfies type f.condition → Collects s d values type (name :: visited) f.selections middle inner →
      Collects s d values type middle rest visited' out →
        Collects s d values type visited (.spread name ds :: rest) visited' (inner ++ out)
  | enterInline {visited middle visited' : List String} {condition : Option String} {ds : List Language.Directive}
      {sub rest : List Language.Selection} {inner out : List ResponseField} :
      Language.included values ds = true → (∀ t, condition = some t → s.Satisfies type t) →
      Collects s d values type visited sub middle inner → Collects s d values type middle rest visited' out →
        Collects s d values type visited (.inline condition ds sub :: rest) visited' (inner ++ out)
  | passInline {visited visited' : List String} {t : String} {ds : List Language.Directive}
      {sub rest : List Language.Selection} {out : List ResponseField} :
      Language.included values ds = true → ¬s.Satisfies type t → Collects s d values type visited rest visited' out →
        Collects s d values type visited (.inline (some t) ds sub :: rest) visited' out

/-- The first field of every key that is not in `seen`. -/
def firstFieldsAfter (seen : List String) : List ResponseField → List ResponseField
  | [] => []
  | x :: rest => if x.key ∈ seen then firstFieldsAfter seen rest else x :: firstFieldsAfter (x.key :: seen) rest

/-- The fields of a response: the first field of every key, in order. -/
def firstFields (fields : List ResponseField) : List ResponseField := firstFieldsAfter [] fields

/-! ## One result, and only one -/

section
variable {s : Schema} {d : Language.Document} {values : String → Bool} {type : String}
  {visited visited₁ visited₂ : List String} {xs ys : List Language.Selection} {out₁ out₂ : List ResponseField}

/-- Selections give one list of fields. -/
theorem Collects.unique (h : Collects s d values type visited xs visited₁ out₁)
    (h' : Collects s d values type visited xs visited₂ out₂) : visited₁ = visited₂ ∧ out₁ = out₂ := by
  induction h generalizing visited₂ out₂ with
  | nil =>
    cases h'
    exact ⟨rfl, rfl⟩
  | excluded he _ ih =>
    cases h' with
    | excluded _ h' => exact ih h'
    | field hi => cases hi.symm.trans he
    | againSpread hi => cases hi.symm.trans he
    | passSpread hi => cases hi.symm.trans he
    | enterSpread hi => cases hi.symm.trans he
    | enterInline hi => cases hi.symm.trans he
    | passInline hi => cases hi.symm.trans he
  | field hi ha _ ih =>
    cases h' with
    | excluded he _ => cases hi.symm.trans he
    | field _ ha' h' =>
      cases Language.argumentsDenote_unique ha ha'
      obtain ⟨rfl, rfl⟩ := ih h'
      exact ⟨rfl, rfl⟩
  | againSpread hi hv _ ih =>
    cases h' with
    | excluded he _ => cases hi.symm.trans he
    | againSpread _ _ h' => exact ih h'
    | passSpread _ hn => exact absurd hv hn
    | enterSpread _ hn => exact absurd hv hn
  | passSpread hi hn hp _ ih =>
    cases h' with
    | excluded he _ => cases hi.symm.trans he
    | againSpread _ hv _ => exact absurd hv hn
    | passSpread _ _ _ h' => exact ih h'
    | enterSpread _ _ hf hs => exact absurd hs (hp _ hf)
  | enterSpread hi hn hf hs _ _ ihi ih =>
    cases h' with
    | excluded he _ => cases hi.symm.trans he
    | againSpread _ hv _ => exact absurd hv hn
    | passSpread _ _ hp _ => exact absurd hs (hp _ hf)
    | enterSpread _ _ hf' _ hin h' =>
      rw [hf] at hf'
      cases hf'
      obtain ⟨rfl, rfl⟩ := ihi hin
      obtain ⟨rfl, rfl⟩ := ih h'
      exact ⟨rfl, rfl⟩
  | enterInline hi hs _ _ ihi ih =>
    cases h' with
    | excluded he _ => cases hi.symm.trans he
    | enterInline _ _ hin h' =>
      obtain ⟨rfl, rfl⟩ := ihi hin
      obtain ⟨rfl, rfl⟩ := ih h'
      exact ⟨rfl, rfl⟩
    | passInline _ hp _ => exact absurd (hs _ rfl) hp
  | passInline hi hp _ ih =>
    cases h' with
    | excluded he _ => cases hi.symm.trans he
    | enterInline _ hs _ _ => exact absurd (hs _ rfl) hp
    | passInline _ _ h' => exact ih h'

/-- Selections after one another are collected one after the other. -/
theorem Collects.append (h : Collects s d values type visited xs visited₁ out₁)
    (h' : Collects s d values type visited₁ ys visited₂ out₂) :
    Collects s d values type visited (xs ++ ys) visited₂ (out₁ ++ out₂) := by
  induction h with
  | nil => exact h'
  | excluded he _ ih => exact .excluded he (ih h')
  | field hi ha _ ih => exact .field hi ha (ih h')
  | againSpread hi hv _ ih => exact .againSpread hi hv (ih h')
  | passSpread hi hn hp _ ih => exact .passSpread hi hn hp (ih h')
  | enterSpread hi hn hf hs hin _ _ ih =>
    rw [List.append_assoc]
    exact .enterSpread hi hn hf hs hin (ih h')
  | enterInline hi hs hin _ _ ih =>
    rw [List.append_assoc]
    exact .enterInline hi hs hin (ih h')
  | passInline hi hp _ ih => exact .passInline hi hp (ih h')

end

/-! ## First fields -/

/-- Only which keys were seen matters. -/
theorem firstFieldsAfter_congr {seen seen' : List String} (h : ∀ k, k ∈ seen ↔ k ∈ seen') (fields : List ResponseField) :
    firstFieldsAfter seen fields = firstFieldsAfter seen' fields := by
  induction fields generalizing seen seen' with
  | nil => rfl
  | cons x rest ih =>
    have hrest := ih h
    have hcons : firstFieldsAfter (x.key :: seen) rest = firstFieldsAfter (x.key :: seen') rest :=
      ih (fun k => by simp [h k])
    simp only [firstFieldsAfter, h x.key, hrest, hcons]

/-- Fields whose keys were all seen add nothing. -/
theorem firstFieldsAfter_eq_nil {seen : List String} {fields : List ResponseField} (h : ∀ x ∈ fields, x.key ∈ seen) :
    firstFieldsAfter seen fields = [] := by
  induction fields with
  | nil => rfl
  | cons x rest ih =>
    rw [firstFieldsAfter, if_pos (h x List.mem_cons_self)]
    exact ih fun y hy => h y (List.mem_cons_of_mem x hy)

/-- The first fields of two lists are those of the first, and those of the second whose keys the first does not have. -/
theorem firstFieldsAfter_append (seen : List String) (a b : List ResponseField) :
    firstFieldsAfter seen (a ++ b) = firstFieldsAfter seen a ++ firstFieldsAfter (a.map (·.key) ++ seen) b := by
  induction a generalizing seen with
  | nil => rfl
  | cons x rest ih =>
    rw [List.cons_append, firstFieldsAfter, firstFieldsAfter]
    by_cases hx : x.key ∈ seen
    · rw [if_pos hx, if_pos hx, ih]
      refine congrArg _ (firstFieldsAfter_congr (fun k => ?_) b)
      simp only [List.map_cons, List.cons_append, List.mem_cons, List.mem_append]
      constructor
      · exact Or.inr
      · rintro (rfl | hk)
        · exact Or.inr hx
        · exact hk
    · rw [if_neg hx, if_neg hx, ih, List.cons_append]
      refine congrArg _ (congrArg _ (firstFieldsAfter_congr (fun k => ?_) b))
      simp only [List.map_cons, List.cons_append, List.mem_cons, List.mem_append]
      grind

/-- The keys that were seen and those of the first fields are the keys that were seen and those of all fields. -/
theorem mem_keys_firstFieldsAfter {seen : List String} {fields : List ResponseField} {k : String} :
    k ∈ (firstFieldsAfter seen fields).map (·.key) ++ seen ↔ k ∈ fields.map (·.key) ++ seen := by
  induction fields generalizing seen with
  | nil => rfl
  | cons x rest ih =>
    have hs := @ih seen
    have hc := @ih (x.key :: seen)
    rw [firstFieldsAfter]
    by_cases hx : x.key ∈ seen
    · rw [if_pos hx, hs]
      simp only [List.map_cons, List.cons_append, List.mem_cons, List.mem_append]
      constructor
      · exact Or.inr
      · rintro (rfl | hk)
        · exact Or.inr hx
        · exact hk
    · rw [if_neg hx]
      simp only [List.map_cons, List.cons_append, List.mem_cons, List.mem_append] at hc ⊢
      grind

/-- First fields that agree, with more after them that agree beyond the keys of the former, agree. -/
theorem firstFieldsAfter_append_congr {seen : List String} {a a' b b' : List ResponseField}
    (ha : firstFieldsAfter seen a = firstFieldsAfter seen a')
    (hb : firstFieldsAfter (a'.map (·.key) ++ seen) b = firstFieldsAfter (a'.map (·.key) ++ seen) b') :
    firstFieldsAfter seen (a ++ b) = firstFieldsAfter seen (a' ++ b') := by
  have hkeys : ∀ k, k ∈ a.map (·.key) ++ seen ↔ k ∈ a'.map (·.key) ++ seen := by
    intro k
    rw [← mem_keys_firstFieldsAfter, ha, mem_keys_firstFieldsAfter]
  rw [firstFieldsAfter_append, firstFieldsAfter_append, ha, firstFieldsAfter_congr hkeys, hb]

/-! ## Conditions and guards -/

namespace Language

/-- One directive, by itself, allows a selection. -/
def Directive.allows (values : String → Bool) (d : Directive) : Bool :=
  if d.name == "include" then d.holds values else if d.name == "skip" then !d.holds values else true

/-- Of a list with at most one member, the first one stands for all. -/
theorem any_head?_of_length_le_one {α : Type} {l : List α} (h : l.length ≤ 1) (p : α → Bool) :
    l.head?.any p = l.any p ∧ l.head?.all p = l.all p := by
  match l, h with
  | [], _ => exact ⟨rfl, rfl⟩
  | [_], _ => simp

/-- With at most one condition of each kind, a selection is included if every directive allows it. -/
theorem included_eq_all {values : String → Bool} {ds : List Directive} (h : PlainConditions ds) :
    included values ds = ds.all (·.allows values) := by
  have hskip := (any_head?_of_length_le_one h.skip_once (·.holds values)).1
  have hinclude := (any_head?_of_length_le_one h.include_once (·.holds values)).2
  rw [List.head?_filter] at hskip hinclude
  rw [included, hskip, hinclude]
  clear hskip hinclude h
  induction ds with
  | nil => rfl
  | cons d rest ih =>
    rw [List.all_cons, ← ih]
    by_cases hs : d.name = "skip"
    · have hi : ¬d.name = "include" := by simp [hs]
      simp [hs, Directive.allows, Bool.and_assoc]
    · by_cases hi : d.name = "include"
      · simp [hi, Directive.allows, Bool.and_left_comm]
      · simp [hs, hi, Directive.allows]

/-- The directives of a selection whose conditions are plain allow it as its guards do. -/
theorem all_allows_of_guards {values : String → Bool} {ds : List Directive}
    (decided : ∀ d ∈ ds, d.name = "include" ∨ d.name = "skip" →
      ∃ a, d.arguments.find? (·.name == "if") = some a ∧ ((∃ name, a.value = .var name) ∨ ∃ b, a.value = .bool b)) :
    ∀ {r : Option (List Resolve.Guard)}, Resolve.guards ds = .ok r →
      ds.all (·.allows values) = r.any (·.all fun g => values g.flag != g.inverted) := by
  induction ds with
  | nil =>
    intro r h
    cases h
    rfl
  | cons d rest ih =>
    intro r h
    have ihrest := @ih fun e he => decided e (List.mem_cons_of_mem d he)
    rw [Resolve.guards] at h
    by_cases hd : d.name = "include" ∨ d.name = "skip"
    · obtain ⟨a, ha, hv⟩ := decided d List.mem_cons_self hd
      have hne : d.arguments.isEmpty = false := by
        cases hargs : d.arguments with
        | nil => simp [hargs] at ha
        | cons _ _ => rfl
      have hcond : (d.name == "include" || d.name == "skip") = true := by simpa using hd
      have hvalue : Resolve.conditionValue d = .ok a.value := by simp [Resolve.conditionValue, hne, ha]
      rw [if_pos hcond] at h
      obtain ⟨literal, hl, h⟩ := bind_eq_ok.mp h
      rw [hvalue] at hl
      cases hl
      rcases hv with ⟨name, hv⟩ | ⟨b, hv⟩
      · -- a variable becomes a guard
        simp only [hv] at h
        obtain ⟨r', hr', h⟩ := bind_eq_ok.mp h
        cases pure_eq_ok.mp h
        have hallows : d.allows values = (values name != (d.name == "skip")) := by
          rcases hd with hd | hd <;> simp [Directive.allows, Directive.holds, hd, ha, hv]
        rw [List.all_cons, ihrest hr', hallows]
        cases r' <;> simp
      · -- a truth value keeps or drops the selection
        simp only [hv] at h
        have hallows : d.allows values = !(b == (d.name == "skip")) := by
          rcases hd with hd | hd <;> cases b <;> simp [Directive.allows, Directive.holds, hd, ha, hv]
        by_cases hb : (b == (d.name == "skip")) = true
        · rw [if_pos hb] at h
          cases pure_eq_ok.mp h
          rw [List.all_cons, hallows, hb]
          rfl
        · rw [if_neg hb] at h
          rw [List.all_cons, hallows, ihrest h]
          simp [hb]
    · have hcond : ¬(d.name == "include" || d.name == "skip") = true := by simpa using hd
      rw [if_neg hcond] at h
      have hallows : d.allows values = true := by
        have := not_or.mp hd
        simp [Directive.allows, this.1, this.2]
      rw [List.all_cons, hallows, ihrest h, Bool.true_and]

/-- A selection with plain conditions is included exactly if it is not dropped and its guards are admitted. -/
theorem included_of_guards {values : String → Bool} {ds : List Directive} (h : PlainConditions ds)
    {r : Option (List Resolve.Guard)} (hr : Resolve.guards ds = .ok r) (type : String) :
    included values ds = r.any (·.all (Visit.executing values type).admits) := by
  rw [included_eq_all h]
  exact all_allows_of_guards h.decided hr

end Language

/-- The object types that satisfy a condition on a composite type are its possible types. -/
theorem satisfies_iff {s : Schema} {condition : String} {t : Schema.TypeDef}
    (h : Resolve.compositeType s condition = .ok t) {type : String} :
    s.Satisfies type condition ↔ type ∈ s.possibleTypes condition := by
  obtain ⟨ht, -, hk⟩ := Resolve.compositeType_ok h
  simp only [Schema.Satisfies, Schema.possibleTypes, ht, Option.some.injEq, exists_eq_left']
  cases hb : t.body with
  | object interfaces fields => simp
  | interface interfaces fields =>
    simp only [Schema.implementers, List.mem_flatMap, List.mem_filter, List.mem_map, beq_iff_eq]
    constructor
    · rintro ⟨o, ho, hko, rfl, hi⟩
      exact ⟨o, ⟨ho, hko⟩, condition, ⟨hi, rfl⟩, rfl⟩
    · rintro ⟨o, ⟨ho, hko⟩, _, ⟨hi, rfl⟩, rfl⟩
      exact ⟨o, ho, hko, rfl, hi⟩
  | union members => simp
  | scalar => simp [Schema.TypeDef.kind, hb, TypeKind.isComposite] at hk
  | enum vs => simp [Schema.TypeDef.kind, hb, TypeKind.isComposite] at hk
  | inputObject fs oneOf => simp [Schema.TypeDef.kind, hb, TypeKind.isComposite] at hk

end TypedOperations
