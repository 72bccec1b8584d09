import TypedOperations.Wire

/-!
# What is sent of variables

Serialising looks into lists and into the entries of input objects that have a value, at any depth, and leaves plain maps as
they are. So a place in the variables is open or it lies inside a plain map (`Value.OpenAt`). What stands at an open place is
sent at the same place, and the kind of the value alone tells as what (`Value.SendsAs`). An input object is sent as a map, which
nobody can tell from a plain one afterwards; therefore it is said of places where an enum member or an input object may remain.
-/

namespace TypedOperations

namespace Value

/-- A value stands in a list at an index, and in a map or an input object under a name. -/
inductive Key where
  | index (i : Nat)
  | name (name : String)

/-- The value is an enum member or an input object. -/
def isObject : Value → Bool
  | .member _ _ _ => true
  | .input _ _ => true
  | _ => false

/-- The value is neither an object nor a list: it is a scalar, or a plain map. -/
def isPlain : Value → Bool
  | .list _ => false
  | v => !v.isObject

/-- There is a value. -/
def isGiven : Value → Bool
  | .null => false
  | _ => true

/-- What stands at a place in a value: in lists, plain maps and input objects, at any depth. Anything else has no parts. -/
inductive At : Value → List Key → Value → Prop where
  | here (v : Value) : At v [] v
  | item {items : List Value} {i : Nat} {v x : Value} {place : List Key} :
      items[i]? = some v → At v place x → At (.list items) (.index i :: place) x
  | entry {entries : List (String × Value)} {name : String} {v x : Value} {place : List Key} :
      (name, v) ∈ entries → At v place x → At (.keyed entries) (.name name :: place) x
  | field {className : String} {entries : List (String × Value)} {name : String} {v x : Value} {place : List Key} :
      (name, v) ∈ entries → At v place x → At (.input className entries) (.name name :: place) x

/-- What stands at an open place in a value: the way there leads through lists, and through entries of input objects that have a
value, but not through plain maps. -/
inductive OpenAt : Value → List Key → Value → Prop where
  | here (v : Value) : OpenAt v [] v
  | item {items : List Value} {i : Nat} {v x : Value} {place : List Key} :
      items[i]? = some v → OpenAt v place x → OpenAt (.list items) (.index i :: place) x
  | field {className : String} {entries : List (String × Value)} {name : String} {v x : Value} {place : List Key} :
      (name, v) ∈ entries → v.isGiven = true → OpenAt v place x → OpenAt (.input className entries) (.name name :: place) x

/-- What a value is sent as, apart from what stands in it: scalars and plain maps as they are, an enum member as its wire text, a
list as a list of the same length, and an input object as the map of those of its entries that have a value, in their order. -/
inductive SendsAs : Value → Value → Prop where
  | plain {v : Value} : v.isPlain = true → SendsAs v v
  | member (enum name wire : String) : SendsAs (.member enum name wire) (.string wire)
  | list {items sent : List Value} : sent.length = items.length → SendsAs (.list items) (.list sent)
  | input {className : String} {entries sent : Entries Value} :
      sent.names = Entries.names (entries.filter (·.2.isGiven)) → SendsAs (.input className entries) (.keyed sent)

/-! ## Wire forms -/

theorem toWire_of_isPlain {v : Value} (h : v.isPlain = true) : v.toWire = v := by
  cases v with
  | list items => cases h
  | member enum name wire => cases h
  | input className entries => cases h
  | _ => rfl

theorem allToWire_eq (items : List Value) : allToWire items = items.map toWire := by
  induction items with
  | nil => rfl
  | cons v rest ih => rw [allToWire, ih, List.map_cons]

/-- The entries that have a value are sent, in their order. -/
theorem entriesToWire_eq (entries : List (String × Value)) :
    entriesToWire entries = (entries.filter (·.2.isGiven)).map fun e => (e.1, e.2.toWire) := by
  induction entries with
  | nil => rfl
  | cons e rest ih =>
    obtain ⟨name, v⟩ := e
    cases v with
    | null => exact ih
    | _ => exact congrArg (List.cons _) ih

@[simp] theorem toWire_list (items : List Value) : (Value.list items).toWire = .list (items.map toWire) :=
  congrArg Value.list (allToWire_eq items)

@[simp] theorem toWire_input (className : String) (entries : List (String × Value)) :
    (Value.input className entries).toWire = .keyed ((entries.filter (·.2.isGiven)).map fun e => (e.1, e.2.toWire)) :=
  congrArg Value.keyed (entriesToWire_eq entries)

/-- No value is lost, and none comes to be. -/
theorem isGiven_toWire (v : Value) : v.toWire.isGiven = v.isGiven := by
  cases v <;> rfl

theorem isObject_toWire (v : Value) : v.toWire.isObject = false := by
  cases v <;> rfl

/-- A value is sent as its kind tells. -/
theorem sendsAs_toWire (v : Value) : v.SendsAs v.toWire := by
  cases v with
  | list items =>
    rw [toWire_list]
    exact .list (List.length_map _)
  | member enum name wire => exact .member enum name wire
  | input className entries =>
    rw [toWire_input]
    refine .input ?_
    rw [Entries.names, List.map_map]
    rfl
  | _ => exact .plain rfl

/-- Induction along what serialising looks into. -/
theorem wire_induction {motive : Value → Prop} (plain : ∀ v, v.isPlain = true → motive v)
    (member : ∀ enum name wire, motive (.member enum name wire))
    (list : ∀ items, (∀ v ∈ items, motive v) → motive (.list items))
    (input : ∀ className entries, (∀ e ∈ entries, motive e.2) → motive (.input className entries)) (v : Value) : motive v := by
  refine @Value.rec motive (fun items => ∀ v ∈ items, motive v) (fun entries => ∀ e ∈ entries, motive e.2)
    (fun e => motive e.2) (plain _ rfl) (fun _ => plain _ rfl) (fun _ => plain _ rfl) (fun _ => plain _ rfl)
    (fun _ => plain _ rfl) list (fun _ _ => plain _ rfl) (fun _ => plain _ rfl) (fun _ => plain _ rfl) member input
    (fun _ _ _ => plain _ rfl) (fun _ => plain _ rfl) ?_ ?_ ?_ ?_ (fun _ _ h => h) v
  · exact fun v hv => absurd hv List.not_mem_nil
  · exact fun v rest hv hrest => List.forall_mem_cons.mpr ⟨hv, hrest⟩
  · exact fun e he => absurd he List.not_mem_nil
  · exact fun e rest he hrest => List.forall_mem_cons.mpr ⟨he, hrest⟩

/-- What is sent is sent as it is. -/
theorem toWire_toWire (v : Value) : v.toWire.toWire = v.toWire := by
  induction v using wire_induction with
  | plain v hv => rw [toWire_of_isPlain hv, toWire_of_isPlain hv]
  | member enum name wire => rfl
  | list items ih =>
    rw [toWire_list, toWire_list, List.map_map]
    exact congrArg Value.list (List.map_congr_left ih)
  | input className entries _ =>
    rw [toWire_input]
    rfl

/-! ## Places -/

/-- What stands at an open place is sent at that place. -/
theorem OpenAt.toWire {v x : Value} {place : List Key} (h : v.OpenAt place x) : v.toWire.At place x.toWire := by
  induction h with
  | here v => exact .here _
  | item hi _ ih =>
    rw [toWire_list]
    exact .item (by rw [List.getElem?_map, hi]; rfl) ih
  | field hentry hgiven _ ih =>
    rw [toWire_input]
    exact .entry (List.mem_map.mpr ⟨_, List.mem_filter.mpr ⟨hentry, hgiven⟩, rfl⟩) ih

/-- Whatever is sent was at an open place, or stands in a plain map that was. -/
theorem openAt_of_toWire (v : Value) :
    ∀ {place : List Key} {y : Value}, v.toWire.At place y →
      (∃ x, v.OpenAt place x ∧ y = x.toWire) ∨
        ∃ outer inner entries, place = outer ++ inner ∧ v.OpenAt outer (.keyed entries) ∧ (Value.keyed entries).At inner y := by
  induction v using wire_induction with
  | plain v hv =>
    intro place y h
    rw [toWire_of_isPlain hv] at h
    cases h with
    | here => exact Or.inl ⟨v, .here v, (toWire_of_isPlain hv).symm⟩
    | item => cases hv
    | entry he hin => exact Or.inr ⟨[], _, _, rfl, .here _, .entry he hin⟩
    | field => cases hv
  | member enum name wire =>
    intro place y h
    cases h with
    | here => exact Or.inl ⟨_, .here _, rfl⟩
  | list items ih =>
    intro place y h
    rw [toWire_list] at h
    cases h with
    | here => exact Or.inl ⟨_, .here _, (toWire_list items).symm⟩
    | item hi hin =>
      obtain ⟨w, hw, rfl⟩ := Option.map_eq_some_iff.mp (List.getElem?_map ▸ hi)
      rcases ih w (List.mem_of_getElem? hw) hin with ⟨x, hx, rfl⟩ | ⟨outer, inner, entries, rfl, houter, hinner⟩
      · exact Or.inl ⟨x, .item hw hx, rfl⟩
      · exact Or.inr ⟨_, inner, entries, rfl, .item hw houter, hinner⟩
  | input className entries ih =>
    intro place y h
    rw [toWire_input] at h
    cases h with
    | here => exact Or.inl ⟨_, .here _, (toWire_input className entries).symm⟩
    | entry he hin =>
      obtain ⟨⟨name, w⟩, hw, heq⟩ := List.mem_map.mp he
      cases heq
      obtain ⟨hw, hgiven⟩ := List.mem_filter.mp hw
      rcases ih _ hw hin with ⟨x, hx, rfl⟩ | ⟨outer, inner, plain, rfl, houter, hinner⟩
      · exact Or.inl ⟨x, .field hw hgiven hx, rfl⟩
      · exact Or.inr ⟨_, inner, plain, rfl, .field hw hgiven houter, hinner⟩

end Value

/-! ## Variables -/

/-- What is sent of variables has a value, which is sent as it is. -/
theorem mem_serializeVariables {values : Entries Value} {e : String × Value} (h : e ∈ serializeVariables values) :
    e.2.isGiven = true ∧ e.2.toWire = e.2 := by
  rw [serializeVariables, Value.entriesToWire_eq] at h
  obtain ⟨given, hgiven, rfl⟩ := List.mem_map.mp h
  refine ⟨?_, Value.toWire_toWire given.2⟩
  rw [Value.isGiven_toWire]
  exact (List.mem_filter.mp hgiven).2

/-- Variables that were serialised are sent as they are. -/
theorem serializeVariables_idem (values : Entries Value) :
    serializeVariables (serializeVariables values) = serializeVariables values := by
  have hkept : (serializeVariables values).filter (·.2.isGiven) = serializeVariables values :=
    List.filter_eq_self.mpr fun e he => (mem_serializeVariables he).1
  have hsame : ∀ e ∈ serializeVariables values, (e.1, e.2.toWire) = e := by
    intro e he
    rw [(mem_serializeVariables he).2]
  calc serializeVariables (serializeVariables values)
      = ((serializeVariables values).filter (·.2.isGiven)).map fun e => (e.1, e.2.toWire) := Value.entriesToWire_eq _
    _ = (serializeVariables values).map id := by rw [hkept, List.map_congr_left hsame]; rfl
    _ = serializeVariables values := List.map_id _

/-- Serialising gives wire values and changes nothing else. Take any variables, as the entries of an input object. Those that
have a value are sent, in their order. What stands at an open place, through lists and input objects at any depth, is sent at
that place as its kind tells: scalars, absent items of lists and plain maps unchanged, lists with their length, input objects as
maps of those of their entries that have a value, in order. Where an enum member or an input object is left, it stands in a
plain map that was at an open place of the variables. And to serialise what is sent changes nothing. -/
theorem serializeVariables_exact (values : Entries Value) (className : String) :
    (serializeVariables values).names = Entries.names (values.filter (·.2.isGiven)) ∧
      (∀ place x, (Value.input className values).OpenAt place x →
        ∃ y, (Value.keyed (serializeVariables values)).At place y ∧ x.SendsAs y) ∧
      (∀ place y, (Value.keyed (serializeVariables values)).At place y → y.isObject = true →
        ∃ outer inner plain, place = outer ++ inner ∧ (Value.input className values).OpenAt outer (.keyed plain) ∧
          (Value.keyed plain).At inner y) ∧
      serializeVariables (serializeVariables values) = serializeVariables values := by
  -- variables are sent as an input object with the same entries is
  have hsent : (Value.input className values).toWire = .keyed (serializeVariables values) := rfl
  refine ⟨?_, fun place x hx => ⟨x.toWire, hsent ▸ hx.toWire, x.sendsAs_toWire⟩, fun place y hy hobject => ?_,
    serializeVariables_idem values⟩
  · cases hsent ▸ Value.sendsAs_toWire (Value.input className values) with
    | input hnames => exact hnames
  · rcases Value.openAt_of_toWire (Value.input className values) (hsent ▸ hy) with ⟨x, -, rfl⟩ | hplain
    · rw [Value.isObject_toWire] at hobject
      cases hobject
    · exact hplain

example :
    serializeVariables
      [("mood", .member "Mood" "CALM" "calm"), ("name", .null),
       ("pets", .list [.null, .input "Pet" [("age", .null), ("tags", .keyed [("mood", .member "Mood" "CALM" "calm")])]])] =
      [("mood", .string "calm"),
       ("pets", .list [.null, .keyed [("tags", .keyed [("mood", .member "Mood" "CALM" "calm")])]])] := rfl

end TypedOperations
