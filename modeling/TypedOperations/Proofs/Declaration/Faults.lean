import TypedOperations.Declaration.Build
import TypedOperations.Proofs.Selection.DepthFirst

/-!
# Faults of the parts of a module

A fault is internal if the generator itself is wrong: a spread was left where all should have been replaced, or a class or a
selection set that the generator counts on is not there. Apart from these, and from fragments that come back to themselves, a
fault lies in what the module is generated from. The parts of a module that are made without following selections into nested
classes have faults of this last kind only.
-/

namespace TypedOperations

namespace Fault

/-- The generator itself is wrong. -/
def isInternal : Fault → Bool
  | .unmergedSpread _ => true
  | .noNestedClass _ => true
  | .noSelectionSet .. => true
  | _ => false

/-- A fragment comes back to itself. -/
def isCycle : Fault → Bool
  | .cyclicFragments _ => true
  | _ => false

/-- The fault lies in what the module is generated from. -/
def isPlain (e : Fault) : Bool :=
  !e.isInternal && !e.isCycle

end Fault

/-- Where the computation fails, the fault lies in what the module is generated from. -/
abbrev FailsPlainly {α : Type} (x : Except Fault α) : Prop :=
  FailsOnly (fun e => e.isPlain = true) x

/-- A fault that lies in what the module is generated from is not internal. -/
theorem Fault.not_internal_of_plain {e : Fault} (h : e.isPlain = true) : e.isInternal = false := by
  simpa using (Bool.and_eq_true_iff.mp h).1

theorem Fault.not_cycle_of_plain {e : Fault} (h : e.isPlain = true) : e.isCycle = false := by
  simpa using (Bool.and_eq_true_iff.mp h).2

theorem failsPlainly_error {α : Type} {e : Fault} (h : e.isPlain = true) : FailsPlainly (.error e : Except Fault α) := by
  intro e' he
  cases he
  exact h

/-! ## Types and values -/

section
variable (o : Options)

theorem failsPlainly_typeExpression (inner : String) (t : ResolvedType) : FailsPlainly (o.typeExpression inner t) := by
  induction t with
  | named t required =>
    have hname : FailsPlainly (o.typeName inner t) := by
      unfold Options.typeName
      split
      · exact failsOnly_ok _
      · split
        · exact failsOnly_ok _
        · split
          · exact failsPlainly_error rfl
          · exact failsOnly_ok _
    exact hname.bind fun _ _ => failsOnly_ok _
  | list item required ih => exact ih.bind fun _ _ => failsOnly_ok _

theorem failsPlainly_outputExpression (record : String) (t : ResolvedType) : FailsPlainly (o.outputExpression record t) := by
  induction t with
  | named t required =>
    have hname : FailsPlainly (o.outputName record t) := by
      unfold Options.outputName
      split
      case h_6 => exact failsPlainly_error rfl
      all_goals exact failsOnly_ok _
    exact hname.bind fun _ _ => failsOnly_ok _
  | list item required ih => exact ih.bind fun _ _ => failsOnly_ok _

mutual

theorem failsPlainly_expression : ∀ v : Value, FailsPlainly v.expression
  | .null | .bool _ | .int _ | .float _ | .string _ | .member .. | .var _ => by
    rw [Value.expression]
    exact failsOnly_ok _
  | .list items => by
    rw [Value.expression]
    exact (failsPlainly_expressions items).bind fun _ _ => failsOnly_ok _
  | .keyed entries => by
    rw [Value.expression]
    exact (failsPlainly_entryExpressions entries).bind fun _ _ => failsOnly_ok _
  | .boundVar _ | .input .. | .view .. | .bytes _ => by
    rw [Value.expression]
    exact failsPlainly_error rfl

theorem failsPlainly_expressions : ∀ vs : List Value, FailsPlainly (Value.expressions vs)
  | [] => failsOnly_ok []
  | v :: rest =>
    (failsPlainly_expression v).bind fun _ _ => (failsPlainly_expressions rest).bind fun _ _ => failsOnly_ok _

theorem failsPlainly_entryExpressions : ∀ es : List (String × Value), FailsPlainly (Value.entryExpressions es)
  | [] => failsOnly_ok []
  | (_, v) :: rest =>
    (failsPlainly_expression v).bind fun _ _ => (failsPlainly_entryExpressions rest).bind fun _ _ => failsOnly_ok _

end

theorem failsPlainly_argumentsExpression (args : List Argument) : FailsPlainly (argumentsExpression args) :=
  (failsPlainly_entryExpressions _).bind fun _ _ => failsOnly_ok _

theorem failsPlainly_remarkText (remark : Option Remark) : FailsPlainly (remarkText remark) := by
  unfold remarkText
  split
  · exact failsOnly_ok _
  · exact failsOnly_ok _
  · split
    · exact failsPlainly_error rfl
    · exact failsOnly_ok _

theorem failsPlainly_documentationOf (remark : Option Remark) : FailsPlainly (documentationOf remark) := by
  refine (failsPlainly_remarkText remark).bind fun text _ => ?_
  split
  · exact failsOnly_ok _
  · exact failsPlainly_error rfl

/-! ## Properties -/

theorem failsPlainly_fieldProperty (f : Field) (scope className : String) (taken : List String) :
    FailsPlainly (o.fieldProperty f scope className taken) :=
  (failsPlainly_typeExpression o _ _).bind fun _ _ => failsOnly_ok _

theorem failsPlainly_reading (p : Property) : FailsPlainly (o.reading p) := by
  unfold Options.reading
  split
  · exact failsOnly_ok _
  · split
    · exact (failsPlainly_typeExpression o _ _).bind fun _ _ => failsOnly_ok _
    · split
      · exact (failsPlainly_typeExpression o _ _).bind fun _ _ => failsOnly_ok _
      · exact failsOnly_ok _

theorem failsPlainly_fieldAccessor (p : Property) : FailsPlainly (o.fieldAccessor p) :=
  (failsPlainly_documentationOf p.description).bind fun _ _ =>
    (failsPlainly_reading o p).bind fun _ _ => failsOnly_ok _

end

namespace RecordScope

variable (s : RecordScope)

theorem failsPlainly_property (f : Field) : FailsPlainly (s.property f) :=
  failsPlainly_fieldProperty s.options f _ _ _

theorem failsPlainly_propertyFor (common : List String) (type : String) (f : Field) :
    FailsPlainly (s.propertyFor common type f) := by
  unfold propertyFor
  split
  · exact s.failsPlainly_property f
  · exact failsPlainly_fieldProperty s.options f _ _ _

theorem failsPlainly_factoriesOf (common : List String) (fields : List Field) (types : List String) :
    FailsPlainly (s.factoriesOf common fields types) := by
  induction types with
  | nil => exact failsOnly_ok []
  | cons t rest ih =>
    have hproperties : FailsPlainly ((ownFields fields).mapM (s.propertyFor common t)) :=
      FailsOnly.mapM fun f _ => s.failsPlainly_propertyFor common t f
    exact hproperties.bind fun _ _ => ih.bind fun _ _ => failsOnly_ok _

theorem failsPlainly_factories (cases : RecordCase) : FailsPlainly (s.factories cases) := by
  unfold factories
  split
  · rename_i r _ _
    have hproperties : FailsPlainly ((ownFields r.fields).mapM s.property) :=
      FailsOnly.mapM fun f _ => s.failsPlainly_property f
    exact hproperties.bind fun _ _ => failsOnly_ok _
  · have hlists : FailsPlainly (cases.records.mapM fun r =>
        s.factoriesOf (cases.common.fields.map (·.responseKey)) r.fields r.possibleTypes) :=
      FailsOnly.mapM fun r _ => s.failsPlainly_factoriesOf _ r.fields r.possibleTypes
    exact hlists.bind fun _ _ => failsOnly_ok _

end RecordScope

/-! ## Fragments, enums and input objects -/

section
variable (c : Context)

theorem failsPlainly_fragment (name : String) : FailsPlainly (c.fragment name) :=
  (c.fragment_failsOnly name).mono fun e he => by
    obtain ⟨_, -, rfl⟩ := he
    rfl

theorem failsPlainly_fragmentProperties (set : SelectionSet) (sels : List Selection) :
    ∀ found, FailsPlainly (c.fragmentProperties set found sels) := by
  induction sels with
  | nil => exact fun found => failsOnly_ok found
  | cons x rest ih =>
    intro found
    cases x with
    | spread name =>
      rw [Context.fragmentProperties]
      split
      · exact ih found
      · split
        · exact ih _
        · rename_i e he
          exact failsPlainly_error (failsPlainly_fragment c name e he)
    | field f => exact ih found
    | typeCondition t inside => exact ih found
    | guarded flag inverted inside => exact ih found

theorem failsPlainly_fragmentsReached (set : SelectionSet) : FailsPlainly (c.fragmentsReached set) := by
  intro e h
  rw [Context.fragmentsReached, reachAll_eq_foldlM] at h
  obtain ⟨name, -, names, hfail⟩ := foldlM_eq_error h
  obtain ⟨missing, rfl, -, -⟩ := enter_error _ hfail
  rfl

theorem failsPlainly_operationId (o : Operation) (fragments : List String) : FailsPlainly (c.operationId o fragments) := by
  have hsources : FailsPlainly (c.fragmentSources fragments) := by
    induction fragments with
    | nil => exact failsOnly_ok []
    | cons name rest ih => exact (failsPlainly_fragment c name).bind fun _ _ => ih.bind fun _ _ => failsOnly_ok _
  have htext : FailsPlainly (c.sourceWithFragments o fragments) := hsources.bind fun _ _ => failsOnly_ok _
  exact htext.bind fun _ _ => failsOnly_ok _

theorem failsPlainly_typeClass (t : Schema.TypeDef) : FailsPlainly (c.typeClass t) := by
  unfold Context.typeClass
  split
  · rename_i values _
    have hvalues : FailsPlainly (values.mapError Fault.badValues) := by
      cases values with
      | error cause => exact failsPlainly_error rfl
      | ok vs => exact failsOnly_ok vs
    have hmember : ∀ v, FailsPlainly (enumMember v) :=
      fun v => (failsPlainly_remarkText v.description).bind fun _ _ => failsOnly_ok _
    have hclass : FailsPlainly (enumClass t.name t.description values) :=
      (failsPlainly_documentationOf t.description).bind fun _ _ =>
        hvalues.bind fun vs _ => (FailsOnly.mapM fun v _ => hmember v).bind fun _ _ => failsOnly_ok _
    exact hclass.bind fun _ _ => failsOnly_ok _
  · rename_i fields _ _
    have hproperty : ∀ f : Schema.InputValue,
        FailsPlainly (c.options.inputProperty f.name (c.schema.resolve f.type) f.description) :=
      fun f => (failsPlainly_typeExpression c.options _ _).bind fun _ _ => failsOnly_ok _
    have haccessor : ∀ p, FailsPlainly (inputAccessor p) :=
      fun p => (failsPlainly_documentationOf p.description).bind fun _ _ => failsOnly_ok _
    have hclass : FailsPlainly (c.inputClass t.name t.description fields) :=
      (FailsOnly.mapM fun f _ => hproperty f).bind fun _ _ =>
        (failsPlainly_documentationOf t.description).bind fun _ _ =>
          (FailsOnly.mapM fun p _ => haccessor p).bind fun _ _ => failsOnly_ok _
    exact hclass.bind fun _ _ => failsOnly_ok _
  · exact failsOnly_ok _

end

end TypedOperations
