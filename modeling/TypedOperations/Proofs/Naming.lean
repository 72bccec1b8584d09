import TypedOperations.Naming.Declared
import TypedOperations.Proofs.Entries

/-!
# Names of nested classes

The keys of composite fields get classes one after another, each a fresh name made from the key. A key that was given a class is
found with such a name, and no other key is.
-/

namespace TypedOperations.Naming

/-- A number after a name leaves no empty name. -/
theorem numbered_ne_empty (base : String) (taken : List String) (fuel n : Nat) : numbered base taken fuel n ≠ "" := by
  have hname : ∀ n : Nat, base ++ toString n ≠ "" := fun n h => Nat.repr_ne_empty (String.append_eq_empty_iff.mp h).2
  induction fuel generalizing n with
  | zero => exact hname n
  | succ fuel ih =>
    rw [numbered]
    split
    · exact ih (n + 1)
    · exact hname n

/-- A fresh name is empty only if it is made from an empty one. -/
theorem eq_empty_of_fresh {base : String} {taken : List String} (h : fresh base taken = "") : base = "" := by
  unfold fresh at h
  split at h
  · exact absurd h (numbered_ne_empty base taken _ _)
  · exact h

/-- A key that is given a class has a fresh name made from it; every other key is looked up as before. -/
theorem get?_distinctFrom (key : String) (keys : List String) :
    ∀ (names : Entries String) (taken : List String),
      (key ∈ keys ∧ ∃ avoided, (distinctFrom names taken keys).get? key = some (fresh (recordClass key) avoided)) ∨
        (key ∉ keys ∧ (distinctFrom names taken keys).get? key = names.get? key) := by
  induction keys with
  | nil => exact fun _ _ => Or.inr ⟨List.not_mem_nil, rfl⟩
  | cons first rest ih =>
    intro names taken
    rw [distinctFrom]
    rcases ih (names.put first (fresh (recordClass first) taken)) (fresh (recordClass first) taken :: taken) with
      ⟨hin, avoided, hget⟩ | ⟨hout, hget⟩
    · exact Or.inl ⟨List.mem_cons_of_mem _ hin, avoided, hget⟩
    · rw [Entries.get?_put] at hget
      by_cases h : first = key
      · subst h
        exact Or.inl ⟨List.mem_cons_self, taken, by rw [hget, if_pos rfl]⟩
      · rw [if_neg h] at hget
        exact Or.inr ⟨fun hmem => (List.mem_cons.mp hmem).elim (fun he => h he.symm) hout, hget⟩

/-- Each key has a class, with a fresh name made from it. -/
theorem exists_distinctClass {key : String} {keys reserved : List String} (h : key ∈ keys) :
    ∃ avoided, (distinctClasses keys reserved).get? key = some (fresh (recordClass key) avoided) := by
  rcases get?_distinctFrom key keys [] reserved with ⟨-, hfresh⟩ | ⟨hout, -⟩
  · exact hfresh
  · exact absurd h hout

/-- Only the keys have classes. -/
theorem mem_of_distinctClass {key name : String} {keys reserved : List String}
    (h : (distinctClasses keys reserved).get? key = some name) : key ∈ keys := by
  rcases get?_distinctFrom key keys [] reserved with ⟨hin, -⟩ | ⟨-, hget⟩
  · exact hin
  · rw [distinctClasses, hget] at h
    cases h

end TypedOperations.Naming
