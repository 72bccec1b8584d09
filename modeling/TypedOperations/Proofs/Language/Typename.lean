import TypedOperations.Proofs.Selection.Resolving

/-!
# Where `__typename` is inserted

Whether a selection set is changed depends on what it belongs to. A set of a field or a fragment gets a plain `__typename` at
its front and loses every other one without a label; a set of an operation or an inline fragment keeps its own selections
(`SetOwner.filled`). The sets of a document before and after are compared place by place, where a place is counted among the
selections that last (`Counterparts`): a set stands at its place after insertion exactly as `filled` says
(`Counterparts.filled`), and every set of the result has a counterpart (`exists_counterpart`).
-/

namespace TypedOperations.Language

/-- What a selection set belongs to. -/
inductive SetOwner where
  | operation
  | fragment
  | field
  | inline
deriving DecidableEq

/-- The sets of the owner tell the type of what they select from. -/
def SetOwner.tellsType : SetOwner → Bool
  | .fragment => true
  | .field => true
  | _ => false

/-- A selection set of a document, at any depth, with what it belongs to. -/
inductive HasSet (d : Document) : SetOwner → List Selection → Prop where
  | operation {o : OperationDefinition} : .operation o ∈ d → HasSet d .operation o.selections
  | fragment {f : FragmentDefinition} : .fragment f ∈ d → HasSet d .fragment f.selections
  | field {owner : SetOwner} {set sub : List Selection} {label : Option String} {name : String} {args : List Argument}
      {ds : List Directive} :
      HasSet d owner set → .field label name args ds (some sub) ∈ set → HasSet d .field sub
  | inline {owner : SetOwner} {set sub : List Selection} {condition : Option String} {ds : List Directive} :
      HasSet d owner set → .inline condition ds sub ∈ set → HasSet d .inline sub

/-- The selections other than `__typename` without a label. -/
def others (set : List Selection) : List Selection :=
  set.filter fun s => !s.isTypename

/-- The set starts with a plain `__typename` and has no other one without a label. -/
def TypenameFirst (set : List Selection) : Prop :=
  ∃ rest, set = .typename :: rest ∧ ∀ x ∈ rest, x.isTypename = false

/-- The selections of a set that insertion leaves in it. -/
def SetOwner.lasting (owner : SetOwner) (set : List Selection) : List Selection :=
  if owner.tellsType then others set else set

/-- The selection without what is selected below it. -/
def Selection.bare : Selection → Selection
  | .field label name args ds sub => .field label name args ds (sub.map fun _ => [])
  | .spread fragment ds => .spread fragment ds
  | .inline condition ds _ => .inline condition ds []

/-- Two sets stand at the same place of two documents, where places are counted among the selections that last. -/
inductive Counterparts (d d' : Document) : SetOwner → List Selection → List Selection → Prop where
  | operation {i : Nat} {o o' : OperationDefinition} :
      d[i]? = some (.operation o) → d'[i]? = some (.operation o') →
        Counterparts d d' .operation o.selections o'.selections
  | fragment {i : Nat} {f f' : FragmentDefinition} :
      d[i]? = some (.fragment f) → d'[i]? = some (.fragment f') →
        Counterparts d d' .fragment f.selections f'.selections
  | field {owner : SetOwner} {set set' sub sub' : List Selection} {i : Nat} {label label' : Option String}
      {name name' : String} {args args' : List Argument} {ds ds' : List Directive} :
      Counterparts d d' owner set set' → (owner.lasting set)[i]? = some (.field label name args ds (some sub)) →
      (owner.lasting set')[i]? = some (.field label' name' args' ds' (some sub')) → Counterparts d d' .field sub sub'
  | inline {owner : SetOwner} {set set' sub sub' : List Selection} {i : Nat} {condition condition' : Option String}
      {ds ds' : List Directive} :
      Counterparts d d' owner set set' → (owner.lasting set)[i]? = some (.inline condition ds sub) →
      (owner.lasting set')[i]? = some (.inline condition' ds' sub') → Counterparts d d' .inline sub sub'

mutual

/-- The selection without the unlabelled `__typename` of the sets of fields in it. -/
def Selection.withoutTypename : Selection → Selection
  | .field label name args ds none => .field label name args ds none
  | .field label name args ds (some sub) => .field label name args ds (some (others (withoutTypenames sub)))
  | .spread fragment ds => .spread fragment ds
  | .inline condition ds sub => .inline condition ds (withoutTypenames sub)

/-- The selections without the unlabelled `__typename` of the sets of fields in them. -/
def withoutTypenames : List Selection → List Selection
  | [] => []
  | s :: rest => s.withoutTypename :: withoutTypenames rest

end

/-- The definition without the unlabelled `__typename` of the sets of fields and fragments. -/
def Definition.withoutTypename : Definition → Definition
  | .operation o => .operation { o with selections := withoutTypenames o.selections }
  | .fragment f => .fragment { f with selections := others (withoutTypenames f.selections) }
  | d => d

/-- The document without the unlabelled `__typename` of the sets of fields and fragments. -/
def withoutTypename (d : Document) : Document :=
  d.map Definition.withoutTypename

/-! ## Selection by selection -/

theorem addTypenames_eq_map (set : List Selection) : addTypenames set = set.map Selection.addTypename := by
  induction set with
  | nil => rfl
  | cons x rest ih => rw [addTypenames, ih, List.map_cons]

theorem withoutTypenames_eq_map (set : List Selection) : withoutTypenames set = set.map Selection.withoutTypename := by
  induction set with
  | nil => rfl
  | cons x rest ih => rw [withoutTypenames, ih, List.map_cons]

@[simp] theorem isTypename_addTypename (x : Selection) : x.addTypename.isTypename = x.isTypename := by
  rcases x with ⟨_ | _, _, _, _, _ | _⟩ | _ | _ <;> rfl

@[simp] theorem isTypename_withoutTypename (x : Selection) : x.withoutTypename.isTypename = x.isTypename := by
  rcases x with ⟨_ | _, _, _, _, _ | _⟩ | _ | _ <;> rfl

@[simp] theorem others_addTypenames (set : List Selection) : others (addTypenames set) = addTypenames (others set) := by
  simp only [others, addTypenames_eq_map, List.filter_map, Function.comp_def, isTypename_addTypename]

@[simp] theorem others_withoutTypenames (set : List Selection) :
    others (withoutTypenames set) = withoutTypenames (others set) := by
  simp only [others, withoutTypenames_eq_map, List.filter_map, Function.comp_def, isTypename_withoutTypename]

@[simp] theorem others_leadTypename (set : List Selection) : others (leadTypename set) = others set := by
  have htypename : Selection.typename.isTypename = true := rfl
  simp [others, leadTypename, htypename]

/-- Nothing stands below the `__typename` that is inserted. -/
@[simp] theorem addTypenames_leadTypename (set : List Selection) :
    addTypenames (leadTypename set) = .typename :: addTypenames (others set) := rfl

theorem leadTypename_eq (set : List Selection) : leadTypename set = .typename :: others set := rfl

/-- A selection keeps all of itself but what is selected below it. -/
@[simp] theorem bare_addTypename (x : Selection) : x.addTypename.bare = x.bare := by
  rcases x with ⟨_, _, _, _, _ | _⟩ | _ | _ <;> rfl

/-- A set with `__typename` at its front has it nowhere else. -/
theorem typenameFirst_leadTypename (set : List Selection) : TypenameFirst (leadTypename set) := by
  refine ⟨others set, leadTypename_eq set, fun x hx => ?_⟩
  simpa using (List.mem_filter.mp hx).2

/-! ## Insertion after insertion, and after deletion -/

/-- Where insertion changes nothing below a set any more, it changes nothing in the set with `__typename` at its front. -/
theorem leadTypename_twice {set : List Selection} (h : addTypenames (addTypenames set) = addTypenames set) :
    leadTypename (addTypenames (leadTypename (addTypenames set))) = leadTypename (addTypenames set) := by
  have hothers : addTypenames (others (addTypenames set)) = others (addTypenames set) := by
    rw [← others_addTypenames, h]
  rw [addTypenames_leadTypename, hothers]
  simp [leadTypename_eq, others, Selection.isTypename, Selection.typename]

theorem addTypenames_twice (set : List Selection) : addTypenames (addTypenames set) = addTypenames set := by
  induction set using selections_induction with
  | nil => rfl
  | field label name args ds sub rest ihsub ih =>
    cases sub with
    | none => simp only [addTypenames, Selection.addTypename, ih]
    | some sub => simp only [addTypenames, Selection.addTypename, ih, leadTypename_twice (ihsub sub rfl)]
  | spread fragment ds rest ih => simp only [addTypenames, Selection.addTypename, ih]
  | inline condition ds sub rest ihsub ih => simp only [addTypenames, Selection.addTypename, ih, ihsub]

/-- Where deletion takes away what insertion did below a set, it takes away what it did in the set. -/
theorem withoutTypenames_leadTypename {set : List Selection} (h : withoutTypenames (addTypenames set) = withoutTypenames set) :
    others (withoutTypenames (leadTypename (addTypenames set))) = others (withoutTypenames set) := by
  rw [← h]
  simp

theorem withoutTypenames_addTypenames (set : List Selection) :
    withoutTypenames (addTypenames set) = withoutTypenames set := by
  induction set using selections_induction with
  | nil => rfl
  | field label name args ds sub rest ihsub ih =>
    cases sub with
    | none => simp only [addTypenames, withoutTypenames, Selection.addTypename, Selection.withoutTypename, ih]
    | some sub =>
      have hsub := withoutTypenames_leadTypename (ihsub sub rfl)
      simp only [addTypenames, withoutTypenames, Selection.addTypename, Selection.withoutTypename, ih, hsub]
  | spread fragment ds rest ih =>
    simp only [addTypenames, withoutTypenames, Selection.addTypename, Selection.withoutTypename, ih]
  | inline condition ds sub rest ihsub ih =>
    simp only [addTypenames, withoutTypenames, Selection.addTypename, Selection.withoutTypename, ih, ihsub]

/-- A second insertion changes nothing. -/
theorem addTypename_twice (d : Document) : addTypename (addTypename d) = addTypename d := by
  rw [addTypename, addTypename, List.map_map]
  refine List.map_congr_left fun x _ => ?_
  cases x with
  | operation o => simp only [Function.comp_apply, Definition.addTypename, addTypenames_twice]
  | fragment f => simp only [Function.comp_apply, Definition.addTypename, leadTypename_twice (addTypenames_twice _)]
  | _ => rfl

/-- What insertion adds or takes away, deletion takes away. -/
theorem withoutTypename_addTypename (d : Document) : withoutTypename (addTypename d) = withoutTypename d := by
  rw [withoutTypename, addTypename, List.map_map]
  refine List.map_congr_left fun x _ => ?_
  cases x with
  | operation o =>
    simp only [Function.comp_apply, Definition.addTypename, Definition.withoutTypename, withoutTypenames_addTypenames]
  | fragment f =>
    have hset := withoutTypenames_leadTypename (withoutTypenames_addTypenames f.selections)
    simp only [Function.comp_apply, Definition.addTypename, Definition.withoutTypename, hset]
  | _ => rfl

/-! ## Place by place -/

/-- What a set becomes by insertion. -/
def SetOwner.filled (owner : SetOwner) (set : List Selection) : List Selection :=
  if owner.tellsType then leadTypename (addTypenames set) else addTypenames set

/-- The selections that last are those that were there, with insertion below them. -/
theorem SetOwner.lasting_filled (owner : SetOwner) (set : List Selection) :
    owner.lasting (owner.filled set) = (owner.lasting set).map Selection.addTypename := by
  rw [← addTypenames_eq_map]
  cases h : owner.tellsType <;> simp [SetOwner.lasting, SetOwner.filled, h]

/-- A selection that is not a plain `__typename` lasts in a set after insertion. -/
theorem SetOwner.mem_lasting_filled {owner : SetOwner} {set : List Selection} {x : Selection} (h : x ∈ owner.filled set)
    (hx : x ≠ .typename) : x ∈ owner.lasting (owner.filled set) := by
  rw [SetOwner.filled] at h ⊢
  rw [SetOwner.lasting]
  split at h
  · rename_i htells
    rw [leadTypename_eq] at h
    rw [if_pos htells, if_pos htells, others_leadTypename]
    exact (List.mem_cons.mp h).resolve_left hx
  · rename_i htells
    rw [if_neg htells, if_neg htells]
    exact h

/-- A selection after insertion that is not a plain `__typename` stands at the place of one that was there. -/
theorem SetOwner.place_of_mem_filled {owner : SetOwner} {set : List Selection} {x : Selection} (h : x ∈ owner.filled set)
    (hx : x ≠ .typename) :
    ∃ (i : Nat) (y : Selection), (owner.lasting set)[i]? = some y ∧ y.addTypename = x ∧
      (owner.lasting (owner.filled set))[i]? = some x := by
  obtain ⟨i, hi⟩ := List.mem_iff_getElem?.mp (SetOwner.mem_lasting_filled h hx)
  have hmap := hi
  rw [SetOwner.lasting_filled, List.getElem?_map, Option.map_eq_some_iff] at hmap
  obtain ⟨y, hy, hyx⟩ := hmap
  exact ⟨i, y, hy, hyx, hi⟩

/-- The definition at a place after insertion is the one that was there, with insertion in it. -/
theorem getElem?_addTypename (d : Document) (i : Nat) : (addTypename d)[i]? = d[i]?.map Definition.addTypename := by
  rw [addTypename, List.getElem?_map]

section
variable {d : Document} {owner : SetOwner} {set set' : List Selection}

/-- The set at the place of another after insertion is what that one becomes. -/
theorem Counterparts.filled (h : Counterparts d (addTypename d) owner set set') : set' = owner.filled set := by
  induction h with
  | operation ho ho' =>
    rw [getElem?_addTypename, ho] at ho'
    cases ho'
    rfl
  | fragment hf hf' =>
    rw [getElem?_addTypename, hf] at hf'
    cases hf'
    rfl
  | field _ hx hx' ih =>
    rw [ih, SetOwner.lasting_filled, List.getElem?_map, hx] at hx'
    cases hx'
    rfl
  | inline _ hx hx' ih =>
    rw [ih, SetOwner.lasting_filled, List.getElem?_map, hx] at hx'
    cases hx'
    rfl

/-- Every set of a document after insertion stands at the place of a set that was there. -/
theorem exists_counterpart (h : HasSet (addTypename d) owner set') : ∃ set, Counterparts d (addTypename d) owner set set' := by
  induction h with
  | operation ho =>
    obtain ⟨i, hi⟩ := List.mem_iff_getElem?.mp ho
    have hwritten := hi
    rw [getElem?_addTypename, Option.map_eq_some_iff] at hwritten
    obtain ⟨x, hx, hxo⟩ := hwritten
    cases x with
    | operation o => exact ⟨o.selections, .operation hx hi⟩
    | _ => cases hxo
  | fragment hf =>
    obtain ⟨i, hi⟩ := List.mem_iff_getElem?.mp hf
    have hwritten := hi
    rw [getElem?_addTypename, Option.map_eq_some_iff] at hwritten
    obtain ⟨x, hx, hxf⟩ := hwritten
    cases x with
    | fragment f => exact ⟨f.selections, .fragment hx hi⟩
    | _ => cases hxf
  | field _ hx ih =>
    obtain ⟨set, hset⟩ := ih
    have hfilled := hset.filled
    subst hfilled
    obtain ⟨i, y, hy, hyx, hi⟩ := SetOwner.place_of_mem_filled hx (by simp [Selection.typename])
    rcases y with ⟨label, name, args, ds, _ | sub⟩ | _ | _
    · cases hyx
    · exact ⟨sub, .field hset hy hi⟩
    · cases hyx
    · cases hyx
  | inline _ hx ih =>
    obtain ⟨set, hset⟩ := ih
    have hfilled := hset.filled
    subst hfilled
    obtain ⟨i, y, hy, hyx, hi⟩ := SetOwner.place_of_mem_filled hx (by simp [Selection.typename])
    rcases y with ⟨label, name, args, ds, _ | sub⟩ | _ | ⟨condition, ds, sub⟩
    · cases hyx
    · cases hyx
    · cases hyx
    · exact ⟨sub, .inline hset hy hi⟩

/-- After insertion the sets of fields and fragments start with `__typename` and have no other one without a label. -/
theorem typenameFirst_of_hasSet (h : HasSet (addTypename d) owner set') (htells : owner.tellsType = true) :
    TypenameFirst set' := by
  obtain ⟨set, hset⟩ := exists_counterpart h
  rw [hset.filled, SetOwner.filled, if_pos htells]
  exact typenameFirst_leadTypename _

/-- Sets at the same place before and after insertion have the same selections that last, in the same order. -/
theorem Counterparts.bare (h : Counterparts d (addTypename d) owner set set') :
    (owner.lasting set').map Selection.bare = (owner.lasting set).map Selection.bare := by
  rw [h.filled, SetOwner.lasting_filled, List.map_map]
  exact List.map_congr_left fun x _ => bare_addTypename x

end

end TypedOperations.Language
