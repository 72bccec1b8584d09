import TypedOperations.Options
import TypedOperations.Proofs.Outcome

/-!
# Options that were read

What the options put into names was checked when they were read: the wrapping class is an identifier, and so is the beginning of
scalar names, if there is one.
-/

namespace TypedOperations.Options

/-- What the options put into names are identifiers. -/
structure WellNamed (o : Options) : Prop where
  wrapper : ∀ w ∈ o.wrapper, Text.isIdentifier w = true
  scalars : o.scalarsPrefix = "" ∨ Text.isIdentifier o.scalarsPrefix = true

theorem isIdentifier_of_readWrapper {j : Json} {wrapper : Option String} (h : readWrapper j = .ok wrapper) :
    ∀ w ∈ wrapper, Text.isIdentifier w = true := by
  obtain ⟨text, -, htext⟩ := bind_eq_ok.mp h
  cases text with
  | none =>
    cases htext
    exact fun w hw => nomatch hw
  | some name =>
    dsimp only at htext
    split at htext
    · rename_i hdeclarable
      cases htext
      rintro w ⟨⟩
      exact (Bool.and_eq_true_iff.mp hdeclarable).1
    · cases htext

theorem isIdentifier_of_readScalarsPrefix {j : Json} {s : String} (h : readScalarsPrefix j = .ok s) :
    s = "" ∨ Text.isIdentifier s = true := by
  obtain ⟨text, -, htext⟩ := bind_eq_ok.mp h
  split at htext
  · cases htext
  · rename_i hprefix
    cases htext
    simpa [or_iff_not_imp_left] using hprefix

/-- Taking the value of an option checks what goes into names. -/
theorem WellNamed.take {e : Entry} (he : e ∈ entries) {j : Json} {o o' : Options} (ho : o.WellNamed)
    (h : e.take j o = .ok o') : o'.WellNamed := by
  simp only [entries, List.mem_cons, List.not_mem_nil, or_false] at he
  rcases he with rfl | rfl | rfl | rfl | rfl | rfl | rfl <;> obtain ⟨x, hx, hset⟩ := bind_eq_ok.mp h <;> cases hset
  · exact ⟨isIdentifier_of_readWrapper hx, ho.scalars⟩
  · exact ⟨ho.wrapper, ho.scalars⟩
  · exact ⟨ho.wrapper, isIdentifier_of_readScalarsPrefix hx⟩
  all_goals exact ⟨ho.wrapper, ho.scalars⟩

theorem WellNamed.read (members : Entries Json) {e : Entry} (he : e ∈ entries) {state : Options × List Complaint}
    (hstate : state.1.WellNamed) : (e.read members state).1.WellNamed := by
  rw [Entry.read]
  split
  · exact hstate
  · split
    · exact hstate
    · split
      · rename_i htake
        exact hstate.take he htake
      · exact hstate

/-- Options that were read without complaint put identifiers into names. -/
theorem WellNamed.of_ofMembers {members : Entries Json} {o : Options} (h : ofMembers members = .ok o) : o.WellNamed := by
  have hrun : ∀ es : List Entry, (∀ e ∈ es, e ∈ entries) → ∀ state : Options × List Complaint, state.1.WellNamed →
      (es.foldl (Entry.read members) state).1.WellNamed := by
    intro es hes
    induction es with
    | nil => exact fun _ hstate => hstate
    | cons e others ih =>
      intro state hstate
      exact ih (fun e' he' => hes e' (List.mem_cons_of_mem e he')) _ (hstate.read members (hes e List.mem_cons_self))
  have hdefault : WellNamed {} := ⟨fun w hw => (nomatch hw), Or.inl rfl⟩
  rw [ofMembers] at h
  dsimp only at h
  split at h
  · cases h
    exact hrun entries (fun _ he => he) _ hdefault
  · cases h

end TypedOperations.Options
