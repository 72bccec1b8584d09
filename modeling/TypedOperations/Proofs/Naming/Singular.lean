import TypedOperations.Proofs.Naming.Distinct

/-!
# Characters of singular nouns

The singular of a noun has the characters of the noun, and letters that a rule or an irregular noun puts in their place. So the
class of a record has no bracket in its name, if the response key has none.
-/

namespace TypedOperations.Naming

variable {c : Char} {cs : List Char}

theorem mem_of_dropEnding {ending stem : List Char} (h : dropEnding? ending cs = some stem) (hc : c ∈ stem) : c ∈ cs := by
  fun_induction dropEnding? ending cs with
  | case1 cs => exact Option.some.inj h ▸ hc
  | case2 => cases h
  | case3 p ps d ds _ ih => exact List.mem_cons_of_mem d (ih h)
  | case4 => cases h

theorem mem_of_reversedBody (hc : c ∈ (reversedBody cs).1 ∨ c ∈ (reversedBody cs).2) : c ∈ cs := by
  rw [reversedBody] at hc
  split at hc
  · rename_i body hbody
    rw [← List.mem_reverse, hbody]
    simpa using hc
  · simpa using hc

/-- The last word and what is before it make up the text. -/
theorem append_of_lastWord {word before : List Char} (h : lastWord? cs = some (word, before)) : word ++ before = cs := by
  match cs with
  | [] => cases h
  | d :: rest =>
    rw [lastWord?] at h
    dsimp only at h
    split at h
    · split at h
      · rename_i u before' hrest
        have hparts : (d :: rest).takeWhile isSmallOrDigit ++ u :: before' = d :: rest := by
          rw [← hrest, List.takeWhile_append_dropWhile]
        split at h
        · cases h
          rw [List.append_assoc, List.singleton_append, hparts]
        · cases h
          exact hparts
      · rename_i hrest
        cases h
        rw [← hrest, List.takeWhile_append_dropWhile]
    · split at h
      · cases h
        exact List.takeWhile_append_dropWhile
      · cases h

theorem ne_nil_of_lastWord {word before : List Char} (h : lastWord? cs = some (word, before)) : word ≠ [] := by
  match cs with
  | [] => cases h
  | d :: rest =>
    rw [lastWord?] at h
    dsimp only at h
    split at h
    · rename_i hd
      have hword : (d :: rest).takeWhile isSmallOrDigit ≠ [] := by simp [hd]
      split at h
      · split at h
        · cases h
          simp
        · cases h
          exact hword
      · cases h
        exact hword
    · split at h
      · rename_i hd
        cases h
        simp [hd]
      · cases h

theorem mem_of_splitLastWord (hc : c ∈ (splitLastWord cs).1 ∨ c ∈ (splitLastWord cs).2) : c ∈ cs := by
  rw [splitLastWord] at hc
  split at hc
  · rename_i word before hword
    rw [List.mem_reverse, List.mem_reverse] at hc
    refine mem_of_reversedBody (Or.inr ?_)
    rw [← append_of_lastWord hword, List.mem_append]
    exact hc.symm
  · exact hc.resolve_left List.not_mem_nil

/-- An inflected word has no characters but its own and those of a rule. -/
theorem mem_of_inflect {inflected : List Char} (h : inflect? cs = some inflected) (hc : c ∈ inflected) :
    c ∈ cs ∨ ∃ rule ∈ endingRules, c ∈ rule.singular.toList := by
  obtain ⟨reversed, hreversed, rfl⟩ := Option.map_eq_some_iff.mp h
  obtain ⟨rule, hrule, hreplace⟩ := List.exists_of_findSome?_eq_some hreversed
  rw [EndingRule.replace?] at hreplace
  split at hreplace
  · rename_i stem hstem
    split at hreplace
    · cases hreplace
      rw [List.reverse_append, List.reverse_reverse, List.mem_append, List.mem_append, List.mem_reverse] at hc
      rcases hc with (hc | hc) | hc
      · exact Or.inl (mem_of_reversedBody (Or.inr (mem_of_dropEnding hstem hc)))
      · exact Or.inr ⟨rule, hrule, hc⟩
      · exact Or.inl (mem_of_reversedBody (Or.inl hc))
    · cases hreplace
  · cases hreplace

theorem bracket_mem_of_singular {word : String} (h : '[' ∈ (singular word).toList) : '[' ∈ word.toList := by
  have hrules : ∀ rule ∈ endingRules, '[' ∉ rule.singular.toList := by decide
  have hnouns : ∀ e ∈ irregularPlurals, '[' ∉ e.2.toList ∧ '[' ∉ (e.2.toList.take 1).map Char.toUpper ++ e.2.toList.drop 1 := by
    decide
  rw [singular] at h
  dsimp only at h
  split at h
  · exact h
  · split at h
    · rename_i noun hnoun
      obtain ⟨before, after, hlist, -⟩ := List.lookup_eq_some_iff.mp hnoun
      have hplain := hnouns _ (hlist.symm ▸ List.mem_append_right before List.mem_cons_self)
      rw [String.toList_ofList, List.mem_append] at h
      rcases h with h | h
      · exact mem_of_splitLastWord (Or.inl h)
      · split at h
        · exact absurd h hplain.2
        · exact absurd h hplain.1
    · split at h
      · rename_i tail htail
        rw [String.toList_ofList, List.mem_append] at h
        rcases h with h | h
        · exact mem_of_splitLastWord (Or.inl h)
        · rcases mem_of_inflect htail h with h | ⟨rule, hrule, h⟩
          · exact mem_of_splitLastWord (Or.inr h)
          · exact absurd h (hrules rule hrule)
      · exact h

/-- The class of a record has an opening bracket in its name only if the response key has. -/
theorem bracket_mem_of_recordClass {key : String} (h : '[' ∈ (recordClass key).toList) : '[' ∈ key.toList := by
  rw [recordClass, pascalCase, String.toList_ofList] at h
  have hdropped := bracket_mem_of_singular (bracket_mem_of_pascalChars h)
  rw [dropUnderscores, String.toList_ofList] at hdropped
  exact (List.dropWhile_sublist _).subset hdropped

end TypedOperations.Naming
