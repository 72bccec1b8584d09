import Mathlib.Data.List.Induction
import Mathlib.Data.List.Nodup
import TypedOperations.Proofs.Selection.Views
import TypedOperations.Proofs.Selection.WellFormed

/-!
# Type conditions by type

Type conditions are regrouped by the types they are on. Those inside a guard are regrouped by themselves first, each group is
put inside the guard again, and then joins what was found before. Nothing is lost or moved by that: there is one entry for every
type that the selections have conditions on, in the order in which the types come first (`names_typeConditions`), and a reader
of an entry meets the fields and spreads that stand in the conditions on its type, in their order and inside the same guards
(`allMet_of_typeConditions`).
-/

namespace TypedOperations

open Resolve (Guard)

/-! ## Selections in guards -/

mutual

/-- The selection, or the selections in the guards that it is. -/
def Selection.unguarded : Selection → List Selection
  | .field f => [.field f]
  | .typeCondition t set => [.typeCondition t set]
  | .spread name => [.spread name]
  | .guarded _ _ ⟨_, sels⟩ => allUnguarded sels

/-- The selections in order, with those in guards in their place. -/
def allUnguarded : List Selection → List Selection
  | [] => []
  | x :: rest => x.unguarded ++ allUnguarded rest

end

/-- What holds of selections, and passes from a guard to the selections in it, holds of whatever stands in guards. -/
theorem unguarded_keeps {P : Selection → Prop}
    (inside : ∀ flag inverted (set : SelectionSet), P (.guarded flag inverted set) → ∀ x ∈ set.selections, P x)
    (sels : List Selection) : (∀ x ∈ sels, P x) → ∀ x ∈ allUnguarded sels, P x := by
  induction sels using selections_induction with
  | nil => exact fun h => h
  | field f rest _ ih =>
    intro h
    obtain ⟨hfirst, hrest⟩ := List.forall_mem_cons.mp h
    exact List.forall_mem_cons.mpr ⟨hfirst, ih hrest⟩
  | typeCondition t ts inner rest _ ih =>
    intro h
    obtain ⟨hfirst, hrest⟩ := List.forall_mem_cons.mp h
    exact List.forall_mem_cons.mpr ⟨hfirst, ih hrest⟩
  | spread name rest ih =>
    intro h
    obtain ⟨hfirst, hrest⟩ := List.forall_mem_cons.mp h
    exact List.forall_mem_cons.mpr ⟨hfirst, ih hrest⟩
  | guarded flag inverted ts inner rest ihi ih =>
    intro h
    obtain ⟨hfirst, hrest⟩ := List.forall_mem_cons.mp h
    exact List.forall_mem_append.mpr ⟨ihi (inside flag inverted ⟨ts, inner⟩ hfirst), ih hrest⟩

/-- The types that selections have conditions on, in guards too. -/
def conditionTypes (sels : List Selection) : List String :=
  (allUnguarded sels).filterMap fun
    | .typeCondition t _ => some t.name
    | _ => none

theorem conditionTypes_guarded (flag : String) (inverted : Bool) (ts : List String) (inner rest : List Selection) :
    conditionTypes (.guarded flag inverted ⟨ts, inner⟩ :: rest) = conditionTypes inner ++ conditionTypes rest :=
  List.filterMap_append

/-- The type of a condition among the selections, in guards too, is one that they have conditions on. -/
theorem mem_conditionTypes {sels : List Selection} {t : NamedType} {set : SelectionSet}
    (h : .typeCondition t set ∈ allUnguarded sels) : t.name ∈ conditionTypes sels :=
  List.mem_filterMap.mpr ⟨_, h, rfl⟩

/-! ## Names in the order of first occurrence -/

/-- Names that come again leave no trace, also if they were taken out by themselves first. -/
theorem eraseDups_append_eraseDups (names more : List String) :
    (names ++ more.eraseDups).eraseDups = (names ++ more).eraseDups := by
  induction more using List.reverseRecOn with
  | nil => rfl
  | append_singleton more name ih =>
    rw [eraseDups_snoc, ← List.append_assoc, eraseDups_snoc]
    split
    · rename_i hmem
      rw [ih, if_pos (List.mem_append_right _ hmem)]
    · rw [← List.append_assoc, eraseDups_snoc, ih]
      simp only [List.mem_append, List.mem_eraseDups]

/-! ## Entries by type -/

/-- The conditions are filed under the names of their types. -/
def ConditionsFiled (entries : Entries TypeCondition) : Prop :=
  ∀ e ∈ entries, e.1 = e.2.type.name

section
variable {entries : Entries TypeCondition} {names : List String}

theorem conditionsFiled_nil : ConditionsFiled [] :=
  fun _ he => absurd he List.not_mem_nil

/-- One more condition is filed with those on its type, or comes last. -/
theorem names_insert (entries : Entries TypeCondition) (t : TypeCondition) :
    (TypeCondition.insert entries t).names =
      if t.type.name ∈ entries.names then entries.names else entries.names ++ [t.type.name] := by
  unfold TypeCondition.insert
  split <;> exact Entries.names_put _ _ _

theorem insert_filed (t : TypeCondition) (h : ConditionsFiled entries) : ConditionsFiled (TypeCondition.insert entries t) := by
  unfold TypeCondition.insert
  split
  · intro e he
    rcases Entries.mem_put he with he | rfl
    · exact h e he
    · rfl
  · rename_i existing hexisting
    intro e he
    rcases Entries.mem_put he with he | rfl
    · exact h e he
    · exact h (t.type.name, existing) (Entries.mem_of_get? hexisting)

theorem insertAll_filed (ts : List TypeCondition) (h : ConditionsFiled entries) :
    ConditionsFiled (ts.foldl TypeCondition.insert entries) := by
  induction ts generalizing entries with
  | nil => exact h
  | cons t rest ih => exact ih (insert_filed t h)

/-- Conditions are filed in the order in which their types come first. -/
theorem names_insertAll (ts : List TypeCondition) (h : entries.names = names.eraseDups) :
    (ts.foldl TypeCondition.insert entries).names = (names ++ ts.map (·.type.name)).eraseDups := by
  induction ts generalizing entries names with
  | nil => simpa using h
  | cons t rest ih =>
    have hinsert : (TypeCondition.insert entries t).names = (names ++ [t.type.name]).eraseDups := by
      rw [names_insert, eraseDups_snoc, h]
      simp only [List.mem_eraseDups]
    rw [List.foldl_cons, ih hinsert, List.append_assoc, List.map_cons, List.singleton_append]

/-- The types of filed conditions that are put inside a guard are the names that they are filed under. -/
theorem ConditionsFiled.names_guarded (h : ConditionsFiled entries) (flag : String) (inverted : Bool) :
    (entries.values.map (TypeCondition.guarded flag inverted)).map (·.type.name) = entries.names := by
  rw [Entries.values, List.map_map, List.map_map]
  exact List.map_congr_left fun e he => (h e he).symm

/-- Collecting conditions files them, after those that are filed. -/
theorem conditionsFrom_filed (sels : List Selection) :
    ∀ {entries : Entries TypeCondition}, ConditionsFiled entries → ConditionsFiled (conditionsFrom entries sels) := by
  induction sels using selections_induction with
  | nil => exact fun h => h
  | field f rest _ ih => exact fun h => ih h
  | typeCondition t ts inner rest _ ih => exact fun h => ih (insert_filed _ h)
  | spread name rest ih => exact fun h => ih h
  | guarded flag inverted ts inner rest _ ih => exact fun h => ih (insertAll_filed _ h)

/-- Collecting conditions files them in the order in which their types come first. -/
theorem names_conditionsFrom (sels : List Selection) :
    ∀ (names : List String) {entries : Entries TypeCondition}, entries.names = names.eraseDups →
      (conditionsFrom entries sels).names = (names ++ conditionTypes sels).eraseDups := by
  induction sels using selections_induction with
  | nil =>
    intro names entries h
    rw [conditionsFrom, h]
    exact congrArg List.eraseDups (List.append_nil names).symm
  | field f rest _ ih => exact ih
  | typeCondition t ts inner rest _ ih =>
    intro names entries h
    have hfirst := ih _ (names_insertAll [⟨t, ⟨ts, inner⟩⟩] h)
    rwa [List.append_assoc] at hfirst
  | spread name rest ih => exact ih
  | guarded flag inverted ts inner rest ihi ih =>
    intro names entries h
    -- the types inside the guard are in order before they join those outside
    have hinner : (conditionsFrom [] inner).names = (conditionTypes inner).eraseDups := ihi [] rfl
    have hfiled := conditionsFrom_filed inner conditionsFiled_nil
    have hjoined := names_insertAll ((conditionsFrom [] inner).values.map (.guarded flag inverted)) h
    rw [hfiled.names_guarded, hinner, eraseDups_append_eraseDups] at hjoined
    rw [conditionTypes_guarded, ← List.append_assoc]
    exact ih _ hjoined

/-- There is one entry for every type that the selections have conditions on, in the order in which the types come first. -/
theorem names_typeConditions (sels : List Selection) : (typeConditions sels).names = (conditionTypes sels).eraseDups :=
  names_conditionsFrom sels [] rfl

/-- The type conditions of selections are filed, and are on the types that the selections have conditions on. -/
theorem typeConditions_filed (sels : List Selection) :
    ConditionsFiled (typeConditions sels) ∧ ∀ name, (typeConditions sels).has name = true ↔ name ∈ conditionTypes sels := by
  refine ⟨conditionsFrom_filed sels conditionsFiled_nil, fun name => ?_⟩
  rw [Entries.has_iff_mem_names, names_typeConditions, List.mem_eraseDups]

end

/-! ## What a reader meets -/

/-- A field or a spread where a reader meets it, inside guards, the outermost first. -/
structure Sighting where
  selection : Selection
  guards : List Guard

/-- What is met inside one more guard. -/
def Sighting.under (g : Guard) (s : Sighting) : Sighting := ⟨s.selection, g :: s.guards⟩

mutual

/-- The fields and spreads that a reader meets in a selection. The reader enters every guarded set, and a narrowed set if
`enters` says so of its possible types. -/
def Selection.met (enters : List String → Bool) : Selection → List Sighting
  | .field f => [⟨.field f, []⟩]
  | .typeCondition _ ⟨ts, sels⟩ => if enters ts then allMet enters sels else []
  | .spread name => [⟨.spread name, []⟩]
  | .guarded flag inverted ⟨_, sels⟩ => (allMet enters sels).map (·.under ⟨flag, inverted⟩)

/-- The fields and spreads that a reader meets in selections, in order. -/
def allMet (enters : List String → Bool) : List Selection → List Sighting
  | [] => []
  | x :: rest => x.met enters ++ allMet enters rest

end

mutual

/-- The fields and spreads that a reader meets inside the type condition on a type that a selection is, or inside those that it
guards. -/
def Selection.metOn (enters : List String → Bool) (type : String) : Selection → List Sighting
  | .field _ => []
  | .typeCondition t ⟨_, sels⟩ => if t.name = type then allMet enters sels else []
  | .spread _ => []
  | .guarded flag inverted ⟨_, sels⟩ => (allMetOn enters type sels).map (·.under ⟨flag, inverted⟩)

/-- The fields and spreads that a reader meets inside the type conditions on a type that stand among selections, directly or in
guards, in order. -/
def allMetOn (enters : List String → Bool) (type : String) : List Selection → List Sighting
  | [] => []
  | x :: rest => x.metOn enters type ++ allMetOn enters type rest

end

section
variable {enters : List String → Bool} {type : String}

theorem allMet_append (a b : List Selection) : allMet enters (a ++ b) = allMet enters a ++ allMet enters b := by
  induction a with
  | nil => rfl
  | cons x rest ih => rw [List.cons_append, allMet, allMet, ih, List.append_assoc]

/-- What a reader meets in the set of a type condition. -/
def TypeCondition.met (enters : List String → Bool) (t : TypeCondition) : List Sighting := allMet enters t.set.selections

theorem TypeCondition.met_join (t t' : TypeCondition) : (t.join t').met enters = t.met enters ++ t'.met enters :=
  allMet_append t.set.selections t'.set.selections

theorem TypeCondition.met_guarded (flag : String) (inverted : Bool) (t : TypeCondition) :
    (t.guarded flag inverted).met enters = (t.met enters).map (·.under ⟨flag, inverted⟩) := by
  obtain ⟨type, ts, sels⟩ := t
  exact List.append_nil _

/-- What a reader meets in the conditions that are on a type. -/
def metAmong (enters : List String → Bool) (type : String) (ts : List TypeCondition) : List Sighting :=
  ts.flatMap fun t => if t.type.name = type then t.met enters else []

/-- What a reader meets in the entry for a type, if there is one. -/
def metUnder (enters : List String → Bool) (type : String) (entries : Entries TypeCondition) : List Sighting :=
  ((entries.get? type).map (·.met enters)).getD []

/-- One more condition on a type comes after those before it. -/
theorem metUnder_insert (entries : Entries TypeCondition) (t : TypeCondition) :
    metUnder enters type (TypeCondition.insert entries t) =
      metUnder enters type entries ++ if t.type.name = type then t.met enters else [] := by
  unfold metUnder TypeCondition.insert
  split
  · rename_i hnone
    rw [Entries.get?_put]
    split
    · rename_i hname
      simp [← hname, hnone]
    · exact (List.append_nil _).symm
  · rename_i existing hexisting
    rw [Entries.get?_put]
    split
    · rename_i hname
      simp [← hname, hexisting, TypeCondition.met_join]
    · exact (List.append_nil _).symm

theorem metUnder_insertAll (ts : List TypeCondition) (entries : Entries TypeCondition) :
    metUnder enters type (ts.foldl TypeCondition.insert entries) =
      metUnder enters type entries ++ metAmong enters type ts := by
  induction ts generalizing entries with
  | nil => exact (List.append_nil _).symm
  | cons t rest ih => rw [List.foldl_cons, ih, metUnder_insert, metAmong, metAmong, List.flatMap_cons, List.append_assoc]

/-- Among filed conditions, those on a type are in its entry. -/
theorem metAmong_values {entries : Entries TypeCondition} (hfiled : ConditionsFiled entries) (hnodup : entries.names.Nodup) :
    metAmong enters type entries.values = metUnder enters type entries := by
  induction entries with
  | nil => rfl
  | cons e rest ih =>
    obtain ⟨name, t⟩ := e
    obtain ⟨hfirst, hrest⟩ := List.forall_mem_cons.mp hfiled
    obtain ⟨hnew, hnodup⟩ := List.nodup_cons.mp hnodup
    have hcons : metAmong enters type (Entries.values ((name, t) :: rest)) =
        (if name = type then t.met enters else []) ++ metUnder enters type rest := by
      rw [show name = t.type.name from hfirst, ← ih hrest hnodup]
      rfl
    rw [hcons]
    by_cases h : name = type
    · subst h
      have hnone : Entries.get? rest name = none := by
        rw [← Option.not_isSome_iff_eq_none]
        exact fun hsome => hnew (Entries.has_iff_mem_names.mp hsome)
      simp [metUnder, Entries.get?, hnone]
    · simp [metUnder, Entries.get?, h]

/-- Conditions that are put inside a guard are met inside the guard. -/
theorem metAmong_guarded (flag : String) (inverted : Bool) (ts : List TypeCondition) :
    metAmong enters type (ts.map (.guarded flag inverted)) = (metAmong enters type ts).map (·.under ⟨flag, inverted⟩) := by
  rw [metAmong, metAmong, List.flatMap_map, List.map_flatMap]
  refine List.flatMap_congr fun t _ => ?_
  rw [TypeCondition.met_guarded, apply_ite (List.map _)]
  rfl

/-- In the entry for a type, a reader meets what it meets in the conditions on the type, after what was there before. -/
theorem metUnder_conditionsFrom (sels : List Selection) :
    ∀ entries : Entries TypeCondition,
      metUnder enters type (conditionsFrom entries sels) = metUnder enters type entries ++ allMetOn enters type sels := by
  induction sels using selections_induction with
  | nil => exact fun _ => (List.append_nil _).symm
  | field f rest _ ih => exact ih
  | typeCondition t ts inner rest _ ih =>
    intro entries
    have hfirst : metAmong enters type [⟨t, ⟨ts, inner⟩⟩] = (Selection.typeCondition t ⟨ts, inner⟩).metOn enters type :=
      List.append_nil _
    rw [allMetOn, ← hfirst, ← List.append_assoc, ← metUnder_insertAll]
    exact ih _
  | spread name rest ih => exact ih
  | guarded flag inverted ts inner rest ihi ih =>
    intro entries
    have hfiled := conditionsFrom_filed inner conditionsFiled_nil
    have hnodup : (conditionsFrom [] inner).names.Nodup := names_typeConditions inner ▸ nodup_eraseDups _
    have hfirst : metAmong enters type ((conditionsFrom [] inner).values.map (.guarded flag inverted)) =
        (Selection.guarded flag inverted ⟨ts, inner⟩).metOn enters type := by
      rw [metAmong_guarded, metAmong_values hfiled hnodup, ihi []]
      rfl
    rw [allMetOn, ← hfirst, ← List.append_assoc, ← metUnder_insertAll]
    exact ih _

/-- In the entry for a type, a reader meets what it meets in the conditions on the type. -/
theorem allMet_of_typeConditions {sels : List Selection} {entry : TypeCondition}
    (h : (typeConditions sels).get? type = some entry) : allMet enters entry.set.selections = allMetOn enters type sels := by
  have hmet : metUnder enters type (typeConditions sels) = allMetOn enters type sels := metUnder_conditionsFrom sels []
  rwa [metUnder, h] at hmet

end

/-! ## Possible types of entries -/

section
variable {s : Schema} {set : SelectionSet}

/-- What stands in guards fits the types around the guards. -/
theorem AllFit.unguarded {possible : List String} {sels : List Selection} (h : AllFit s possible sels) :
    ∀ x ∈ allUnguarded sels, x.Fits s possible := by
  refine unguarded_keeps (P := (·.Fits s possible)) ?_ sels fun x hx => h.of_mem hx
  rintro flag inverted ⟨ts, inner⟩ ⟨rfl, hinner⟩ x hx
  exact hinner.of_mem hx

/-- In a set that fits the schema, the conditions on a type have the possible types of its entry. -/
theorem AllFit.types_of_condition (h : AllFit s set.possibleTypes set.selections) {t : NamedType} {inner : SelectionSet}
    (ht : .typeCondition t inner ∈ allUnguarded set.selections) :
    ∃ entry, (typeConditions set.selections).get? t.name = some entry ∧ entry.set.possibleTypes = inner.possibleTypes := by
  obtain ⟨hfiled, hhas⟩ := typeConditions_filed set.selections
  obtain ⟨entry, hentry⟩ := Entries.has_iff.mp ((hhas t.name).mpr (mem_conditionTypes ht))
  have hmem := Entries.mem_of_get? hentry
  have hname : t.name = entry.type.name := hfiled _ hmem
  refine ⟨entry, hentry, ?_⟩
  rw [(conditionOf_typeConditions (c := default) h hmem).types, ← hname]
  exact (h.unguarded _ ht).1.symm

end

/-- Regrouping type conditions loses and moves nothing. Among any selections, there is one entry for every type that they have
conditions on, directly or in guards, in the order in which these types come first. Whatever narrowed sets a reader enters, such
as those that allow one object type, it meets in the entry for a type the fields and spreads that it meets inside the conditions
on that type, in the same order, each inside the same guards, the outermost first. And in a resolved document all conditions on
a type that stand in a set, directly or in guards, have the possible types of its entry. -/
theorem typeConditions_exact (sels : List Selection) :
    (typeConditions sels).names = (conditionTypes sels).eraseDups ∧
      (∀ type entry, (typeConditions sels).get? type = some entry → entry.type.name = type ∧
        ∀ enters, allMet enters entry.set.selections = allMetOn enters type sels) ∧
      ∀ s options d c set, Context.ofDocument s options d = .ok c → c.Holds set → set.selections = sels →
        ∀ t inner, .typeCondition t inner ∈ allUnguarded sels →
          ∃ entry, (typeConditions sels).get? t.name = some entry ∧ entry.set.possibleTypes = inner.possibleTypes := by
  refine ⟨names_typeConditions sels, fun type entry hentry => ⟨?_, fun enters => allMet_of_typeConditions hentry⟩, ?_⟩
  · exact ((typeConditions_filed sels).1 _ (Entries.mem_of_get? hentry)).symm
  · rintro s options d c set resolved held rfl t inner ht
    exact (held.fits resolved).types_of_condition ht

theorem typeConditions_exact_pet :
    Context.ofDocument petSchema default petDocument = .ok petContext ∧ petContext.Holds petAsked ∧
      (typeConditions petAsked.selections).names = ["Dog"] ∧
      ∃ t inner entry, .typeCondition t inner ∈ allUnguarded petAsked.selections ∧
        (typeConditions petAsked.selections).get? t.name = some entry ∧ entry.set.possibleTypes = inner.possibleTypes ∧
        ∀ enters, allMet enters entry.set.selections = allMetOn enters t.name petAsked.selections := by
  obtain ⟨hnames, hmet, htypes⟩ := typeConditions_exact petAsked.selections
  have ht : .typeCondition ⟨"Dog", .object⟩ ⟨["Dog"], _⟩ ∈ allUnguarded petAsked.selections :=
    List.mem_cons_of_mem _ List.mem_cons_self
  obtain ⟨entry, hentry, hsame⟩ := htypes petSchema default petDocument petContext petAsked petContext_eq petAsked_held rfl _ _ ht
  exact ⟨petContext_eq, petAsked_held, hnames.trans (by decide), _, _, entry, ht, hentry, hsame, (hmet _ _ hentry).2⟩

end TypedOperations
