import TypedOperations.Proofs.Naming
import TypedOperations.Proofs.Source.Numeral
import TypedOperations.Proofs.Text.LetterCase

/-!
# Names that cannot clash

Attributes are in snake case, classes in Pascal case. Whatever a name is made from, snake case leaves no capital in it, and
Pascal case leaves no underscore and no small letter at its beginning, so a class and an attribute have the same name only if it
begins with neither a letter nor an underscore. An attribute avoids the names that are passed to it by an underscore at its end.
That is enough for the accessors of type conditions, because no accessor ends in an underscore but one, `as_`
(`eq_as_of_accessor`). Nested classes avoid one another by numbers: one is counted up as often as there are names to avoid, and
they cannot all be numbered ones (`fresh_notMem`).
-/

namespace TypedOperations.Naming

open Text

/-! ## Fresh names -/

/-- Where counting up leads to a name that is taken, all names on the way are. -/
theorem numbered_mem {base : String} {taken : List String} (fuel : Nat) :
    ∀ n, numbered base taken fuel n ∈ taken → ∀ k ≤ fuel, base ++ toString (n + k) ∈ taken := by
  induction fuel with
  | zero =>
    intro n h k hk
    rw [Nat.le_zero.mp hk]
    exact h
  | succ fuel ih =>
    intro n h k hk
    rw [numbered] at h
    split at h
    · rename_i hfirst
      cases k with
      | zero => simpa using hfirst
      | succ k =>
        have hnext := ih (n + 1) h k (Nat.le_of_succ_le_succ hk)
        rwa [Nat.add_right_comm] at hnext
    · rename_i hfirst
      exact absurd (List.contains_iff_mem.mpr h) hfirst

/-- A fresh name is not taken. -/
theorem fresh_notMem (base : String) (taken : List String) : fresh base taken ∉ taken := by
  intro h
  unfold fresh at h
  split at h
  · -- one name more than there are in the list would be in it
    have hmem := numbered_mem taken.length 2 h
    have hinj : Function.Injective fun k : Nat => base ++ toString (2 + k) := by
      intro a b hab
      have hnumber := Source.toString_inj ((String.append_right_inj base).mp hab)
      omega
    have hsub : (List.range (taken.length + 1)).map (fun k => base ++ toString (2 + k)) ⊆ taken := by
      intro name hname
      obtain ⟨k, hk, rfl⟩ := List.mem_map.mp hname
      exact hmem k (Nat.le_of_lt_succ (List.mem_range.mp hk))
    have hlength := (List.nodup_range.map hinj).length_le_of_subset hsub
    rw [List.length_map, List.length_range] at hlength
    omega
  · rename_i hfree
    exact hfree (List.contains_iff_mem.mpr h)

/-- The classes of distinct keys are distinct from the names that were taken, and from one another. -/
theorem distinctFrom_distinct (keys : List String) :
    ∀ (names : Entries String) (taken : List String), keys.Nodup →
      (∀ key ∈ keys, ∀ name, (distinctFrom names taken keys).get? key = some name → name ∉ taken) ∧
        ∀ a ∈ keys, ∀ b ∈ keys, ∀ name, (distinctFrom names taken keys).get? a = some name →
          (distinctFrom names taken keys).get? b = some name → a = b := by
  induction keys with
  | nil => exact fun _ _ _ => ⟨fun _ h => absurd h List.not_mem_nil, fun _ h => absurd h List.not_mem_nil⟩
  | cons first rest ih =>
    intro names taken hnodup
    obtain ⟨hnew, hrest⟩ := List.nodup_cons.mp hnodup
    rw [distinctFrom]
    obtain ⟨havoid, hdistinct⟩ := ih (names.put first (fresh (recordClass first) taken))
      (fresh (recordClass first) taken :: taken) hrest
    -- the first key is not given another class later
    have hfirst : (distinctFrom (names.put first (fresh (recordClass first) taken))
        (fresh (recordClass first) taken :: taken) rest).get? first = some (fresh (recordClass first) taken) := by
      rcases get?_distinctFrom first rest (names.put first (fresh (recordClass first) taken))
        (fresh (recordClass first) taken :: taken) with ⟨hin, -⟩ | ⟨-, hget⟩
      · exact absurd hin hnew
      · rw [hget, Entries.get?_put, if_pos rfl]
    refine ⟨fun key hkey name hname => ?_, fun a ha b hb name hna hnb => ?_⟩
    · rcases List.mem_cons.mp hkey with rfl | hkey
      · rw [hfirst] at hname
        cases hname
        exact fresh_notMem _ taken
      · exact fun h => havoid key hkey name hname (List.mem_cons_of_mem _ h)
    · rcases List.mem_cons.mp ha with rfl | ha
      · rcases List.mem_cons.mp hb with rfl | hb
        · rfl
        · rw [hfirst] at hna
          cases hna
          exact absurd List.mem_cons_self (havoid b hb _ hnb)
      · rcases List.mem_cons.mp hb with hb | hb
        · rw [hb, hfirst] at hnb
          cases hnb
          exact absurd List.mem_cons_self (havoid a ha _ hna)
        · exact hdistinct a ha b hb name hna hnb

/-- The classes of some of the keys, as they are looked up: distinct, not reserved, and made from keys. -/
theorem distinctClasses_names {keys chosen reserved : List String} (hkeys : keys.Nodup) (hchosen : chosen.Nodup)
    (hsub : chosen ⊆ keys) :
    (chosen.map fun key => ((distinctClasses keys reserved).get? key).getD "").Nodup ∧
      ∀ name ∈ chosen.map fun key => ((distinctClasses keys reserved).get? key).getD "",
        name ∉ reserved ∧ ∃ key avoided, name = fresh (recordClass key) avoided := by
  obtain ⟨havoid, hdistinct⟩ := distinctFrom_distinct keys [] reserved hkeys
  have hget : ∀ key ∈ chosen, ∃ avoided, (distinctClasses keys reserved).get? key = some (fresh (recordClass key) avoided) :=
    fun key hkey => exists_distinctClass (hsub hkey)
  refine ⟨hchosen.map_on fun a ha b hb hab => ?_, fun name hname => ?_⟩
  · obtain ⟨_, hgeta⟩ := hget a ha
    obtain ⟨_, hgetb⟩ := hget b hb
    rw [hgeta, hgetb, Option.getD_some, Option.getD_some] at hab
    rw [← hab] at hgetb
    exact hdistinct a (hsub ha) b (hsub hb) _ hgeta hgetb
  · obtain ⟨key, hkey, rfl⟩ := List.mem_map.mp hname
    obtain ⟨avoided, hgetkey⟩ := hget key hkey
    rw [hgetkey, Option.getD_some]
    exact ⟨havoid key (hsub hkey) _ hgetkey, key, avoided, rfl⟩

/-! ## Snake case and Pascal case -/

section
variable {cs : List Char}

/-- Marking words leaves the first character. -/
theorem head?_markWords (copying : Bool) (cs : List Char) : (markWords copying cs).head? = cs.head? := by
  fun_cases markWords copying cs <;> rfl

/-- After the first character, words or humps marked, comes a mark or the character that came before; a capital does not come
after a small letter. -/
theorem markWords_cons (c : Char) (cs : List Char) :
    ∃ more, markWords false (c :: cs) = c :: more ∧ ∀ d, more.head? = some d → d = '_' ∨ cs.head? = some d := by
  rcases cs with - | ⟨u, - | ⟨l, rest⟩⟩
  · exact ⟨[], rfl, fun d h => Or.inr h⟩
  · exact ⟨[u], rfl, fun d h => Or.inr h⟩
  · rw [markWords, if_neg (by simp)]
    split
    · exact ⟨_, rfl, fun d h => Or.inl (Option.some.inj h).symm⟩
    · exact ⟨_, rfl, fun d h => Or.inr (head?_markWords false _ ▸ h)⟩

theorem head?_markHumps (cs : List Char) : (markHumps cs).head? = cs.head? := by
  fun_cases markHumps cs <;> rfl

theorem markHumps_cons {c : Char} (hc : c.isLower = true) (cs : List Char) :
    ∃ more, markHumps (c :: cs) = c :: more ∧
      ∀ d, more.head? = some d → d = '_' ∨ cs.head? = some d ∧ d.isUpper = false := by
  cases cs with
  | nil => exact ⟨[], rfl, fun d h => nomatch h⟩
  | cons b rest =>
    rw [markHumps]
    split
    · exact ⟨_, rfl, fun d h => Or.inl (Option.some.inj h).symm⟩
    · rename_i hhump
      refine ⟨_, rfl, fun d h => Or.inr ?_⟩
      rw [head?_markHumps] at h
      cases h
      exact ⟨rfl, by simpa [hc] using hhump⟩

/-- Marking words and humps leaves the last character. -/
theorem getLast?_markWords (copying : Bool) (cs : List Char) : (markWords copying cs).getLast? = cs.getLast? := by
  fun_induction markWords copying cs with
  | case1 => rfl
  | case2 copying c rest _ ih => rw [List.getLast?_cons, ih, ← List.getLast?_cons]
  | case3 copying c _ u l rest _ ih =>
    simp only [List.getLast?_cons, ih]
    rfl
  | case4 copying c _ u l rest _ ih => rw [List.getLast?_cons, ih, ← List.getLast?_cons]
  | case5 copying c u _ ih => rw [List.getLast?_cons, ih, ← List.getLast?_cons]
  | case6 => rfl

theorem getLast?_markHumps (cs : List Char) : (markHumps cs).getLast? = cs.getLast? := by
  fun_induction markHumps cs with
  | case1 => rfl
  | case2 => rfl
  | case3 a b rest _ ih =>
    simp only [List.getLast?_cons, ih]
    rfl
  | case4 a b rest _ ih => rw [List.getLast?_cons, ih, ← List.getLast?_cons]

/-- Marking words and humps adds nothing but underscores. -/
theorem mem_markWords {c : Char} (copying : Bool) (cs : List Char) (h : c ∈ markWords copying cs) : c ∈ cs ∨ c = '_' := by
  fun_induction markWords copying cs <;> grind

theorem mem_markHumps {c : Char} (cs : List Char) (h : c ∈ markHumps cs) : c ∈ cs ∨ c = '_' := by
  fun_induction markHumps cs <;> grind

/-- Snake case has no capitals. -/
theorem isUpper_of_mem_snakeCase {name : String} {d : Char} (h : d ∈ (snakeCase name).toList) : d.isUpper = false := by
  rw [snakeCase, String.toList_ofList] at h
  exact isUpper_of_mem_lowerFrom _ h

/-- Snake case ends in an underscore only if the name does. -/
theorem getLast?_of_snakeChars (h : (snakeChars cs).getLast? = some '_') : cs.getLast? = some '_' := by
  have hmarked := getLast?_of_lowerFrom _ h
  rwa [getLast?_markHumps, getLast?_markWords] at hmarked

/-- No part between separators has a separator in it. -/
theorem notMem_of_splitOnFrom {sep : Char} {part : List Char} (cs : List Char) :
    ∀ {start : List Char}, sep ∉ start → part ∈ Text.splitOnFrom sep start cs → sep ∉ part := by
  induction cs with
  | nil =>
    intro start hstart hpart
    rw [List.mem_singleton.mp hpart]
    simpa using hstart
  | cons c rest ih =>
    intro start hstart hpart
    rw [Text.splitOnFrom] at hpart
    split at hpart
    · rcases List.mem_cons.mp hpart with rfl | hpart
      · simpa using hstart
      · exact ih List.not_mem_nil hpart
    · rename_i hother
      refine ih (fun h => ?_) hpart
      rcases List.mem_cons.mp h with rfl | h
      · exact hother (beq_self_eq_true _)
      · exact hstart h

theorem mem_of_splitOnFrom {sep c : Char} {part : List Char} (cs : List Char) :
    ∀ {start : List Char}, part ∈ Text.splitOnFrom sep start cs → c ∈ part → c ∈ start ∨ c ∈ cs := by
  induction cs with
  | nil =>
    intro start hpart hc
    rw [List.mem_singleton.mp hpart, List.mem_reverse] at hc
    exact Or.inl hc
  | cons d rest ih =>
    intro start hpart hc
    rw [Text.splitOnFrom] at hpart
    split at hpart
    · rcases List.mem_cons.mp hpart with rfl | hpart
      · exact Or.inl (List.mem_reverse.mp hc)
      · exact Or.inr (List.mem_cons_of_mem d ((ih hpart hc).resolve_left List.not_mem_nil))
    · rcases ih hpart hc with h | h
      · rcases List.mem_cons.mp h with rfl | h
        · exact Or.inr List.mem_cons_self
        · exact Or.inl h
      · exact Or.inr (List.mem_cons_of_mem d h)

/-- Pascal case has an opening bracket only if the text has. -/
theorem bracket_mem_of_pascalChars (h : '[' ∈ pascalChars cs) : '[' ∈ cs := by
  obtain ⟨part, hpart, h⟩ := List.mem_flatMap.mp h
  have hin : '[' ∈ part := by
    cases part with
    | nil => exact h
    | cons c rest =>
      rcases List.mem_append.mp h with h | h
      · exact List.mem_cons.mpr (Or.inl (eq_of_mem_upperChar (Or.inr rfl) h).symm)
      · exact List.mem_cons_of_mem c h
  have hsnake : '[' ∈ snakeChars cs := (mem_of_splitOnFrom _ hpart hin).resolve_left List.not_mem_nil
  have hhumps := (mem_markHumps _ (bracket_mem_of_lowerFrom _ hsnake)).resolve_right (by decide)
  exact (mem_markWords false cs hhumps).resolve_right (by decide)

/-- Pascal case has no underscores. -/
theorem underscore_notMem_pascalChars (cs : List Char) : '_' ∉ pascalChars cs := by
  intro h
  obtain ⟨part, hpart, h⟩ := List.mem_flatMap.mp h
  have hnone : '_' ∉ part := notMem_of_splitOnFrom _ List.not_mem_nil hpart
  cases part with
  | nil => cases h
  | cons c rest =>
    rcases List.mem_append.mp h with h | h
    · exact hnone (List.mem_cons.mpr (Or.inl (eq_of_mem_upperChar (Or.inl rfl) h).symm))
    · exact hnone (List.mem_cons_of_mem _ h)

/-- Pascal case begins with no small letter. -/
theorem head?_pascalChars {c : Char} (h : (pascalChars cs).head? = some c) : c.isLower = false := by
  rw [pascalChars, List.head?_flatMap] at h
  obtain ⟨part, -, hpart⟩ := List.exists_of_findSome?_eq_some h
  cases part with
  | nil => cases hpart
  | cons first rest =>
    obtain ⟨u, us, hupper⟩ := List.exists_cons_of_ne_nil (upperChar_ne_nil first)
    rw [capitalize, hupper] at hpart
    cases hpart
    exact isLower_of_mem_upperChar (c := first) (hupper ▸ List.mem_cons_self)

end

/-! ## Classes -/

/-- The name begins with a small letter. -/
def beginsSmall (name : String) : Bool :=
  name.toList.head?.any Char.isLower

/-- The name begins with neither a letter nor an underscore, or is empty. -/
def isUnlettered (name : String) : Bool :=
  name.toList.head?.all fun c => !(c.isAlpha || c == '_')

/-- A fresh name is the given one with digits after it. -/
theorem fresh_eq (base : String) (taken : List String) :
    ∃ digits : List Char, (fresh base taken).toList = base.toList ++ digits ∧ ∀ d ∈ digits, d.isDigit = true := by
  have hnumbered : ∀ fuel n, ∃ k : Nat, numbered base taken fuel n = base ++ toString k := by
    intro fuel
    induction fuel with
    | zero => exact fun n => ⟨n, rfl⟩
    | succ fuel ih =>
      intro n
      rw [numbered]
      split
      · exact ih (n + 1)
      · exact ⟨n, rfl⟩
  unfold fresh
  split
  · obtain ⟨k, hk⟩ := hnumbered taken.length 2
    refine ⟨Nat.toDigits 10 k, ?_, fun d hd => Nat.isDigit_of_mem_toDigits (by decide) (by decide) hd⟩
    rw [hk, String.toList_append, Nat.toString_eq_repr, Nat.repr_eq_ofList_toDigits, String.toList_ofList]
  · exact ⟨[], by simp, by simp⟩

/-- The class of a record has no underscore in its name. -/
theorem underscore_notMem_recordClass (key : String) (avoided : List String) :
    '_' ∉ (fresh (recordClass key) avoided).toList := by
  obtain ⟨digits, hfresh, hdigits⟩ := fresh_eq (recordClass key) avoided
  rw [hfresh, recordClass, pascalCase, String.toList_ofList]
  intro h
  rcases List.mem_append.mp h with h | h
  · exact underscore_notMem_pascalChars _ h
  · exact absurd (hdigits _ h) (by decide)

/-- The class of a record does not begin with a small letter. -/
theorem beginsSmall_recordClass (key : String) (avoided : List String) :
    beginsSmall (fresh (recordClass key) avoided) = false := by
  obtain ⟨digits, hfresh, hdigits⟩ := fresh_eq (recordClass key) avoided
  rw [beginsSmall, hfresh, recordClass, pascalCase, String.toList_ofList, Option.any_eq_false]
  intro d hd
  rw [List.head?_append, Option.or_eq_some_iff] at hd
  rcases hd with hd | ⟨-, hd⟩
  · exact head?_pascalChars hd
  · have hdigit : 48 ≤ d.toNat ∧ d.toNat ≤ 57 := Char.isDigit_iff_toNat.mp (hdigits d (List.mem_of_head? hd))
    rw [Bool.eq_false_iff, ne_eq, isLower_iff]
    omega

/-- The class of a type condition begins with a capital. -/
theorem head?_conditionClass (type : String) : (conditionClass type).toList.head? = some 'A' := by
  simp [conditionClass]

/-! ## Attributes and accessors -/

/-- Attributes have no capitals. -/
theorem isUpper_of_mem_attributeName {name : String} {taken : List String} {d : Char}
    (h : d ∈ (attributeName name taken).toList) : d.isUpper = false := by
  unfold attributeName at h
  dsimp only at h
  split at h
  · rw [String.toList_append] at h
    rcases List.mem_append.mp h with h | h
    · exact isUpper_of_mem_snakeCase h
    · rw [List.mem_singleton.mp h]
      rfl
  · exact isUpper_of_mem_snakeCase h

/-- Attributes are not among the names that begin with a capital. -/
theorem attributeName_ne_of_capital {name other : String} {taken : List String} {c : Char}
    (hc : other.toList.head? = some c) (hcapital : c.isUpper = true) : attributeName name taken ≠ other := by
  rintro rfl
  rw [isUpper_of_mem_attributeName (List.mem_of_head? hc)] at hcapital
  cases hcapital

/-- An attribute that has the name of the class of a record begins with neither a letter nor an underscore. -/
theorem isUnlettered_of_recordClass {name key : String} {taken avoided : List String}
    (h : attributeName name taken = fresh (recordClass key) avoided) : isUnlettered (attributeName name taken) = true := by
  rw [isUnlettered, Option.all_eq_true]
  intro c hc
  have hmem := List.mem_of_head? hc
  have hupper : c.isUpper = false := isUpper_of_mem_attributeName hmem
  have hlower : c.isLower = false := by
    have hsmall := beginsSmall_recordClass key avoided
    rw [← h, beginsSmall, hc] at hsmall
    exact hsmall
  have hunderscore : c ≠ '_' := fun he => underscore_notMem_recordClass key avoided (h ▸ he ▸ hmem)
  simp [isAlpha_eq, hupper, hlower, hunderscore]

/-- A name with an underscore after it is none that does not end in one. -/
theorem append_underscore_ne {base name : String} (h : name.toList.getLast? ≠ some '_') : base ++ "_" ≠ name := by
  rintro rfl
  exact h (by simp)

/-- Attributes are not among those that every record defines itself. -/
theorem attributeName_notMem (name : String) (taken : List String) : attributeName name taken ∉ recordAttributes := by
  have hends : ∀ own ∈ recordAttributes, own.toList.getLast? ≠ some '_' := by decide
  intro h
  unfold attributeName at h
  dsimp only at h
  split at h
  · exact append_underscore_ne (hends _ h) rfl
  · rename_i hfree
    exact hfree (by simp [h])

/-- Attributes of variables are not the object that they belong to. -/
theorem variableAttribute_ne_self (name : String) : variableAttribute name ≠ "self" := by
  unfold variableAttribute
  dsimp only
  split
  · exact append_underscore_ne (by decide)
  · exact fun h => attributeName_notMem name [] (by rw [h]; decide)

/-- The attribute of the type condition on a type. -/
def accessor (type : String) : String :=
  attributeName (conditionClass type)

theorem attributeBase_conditionClass (type : String) :
    (attributeBase (conditionClass type)).toList = snakeChars ('A' :: 's' :: pascalChars type.toList) := by
  have hbase : attributeBase (conditionClass type) = snakeCase (conditionClass type) := by
    rw [attributeBase, if_neg]
    simp [conditionClass, Text.beginsWith]
  rw [hbase, snakeCase, String.toList_ofList, conditionClass, String.toList_append, pascalCase]
  simp

/-- With its words and humps marked, the class of a type condition goes on after `As` with no letter. -/
theorem marked_conditionClass (type : String) :
    ∃ more, markHumps (markWords false ('A' :: 's' :: pascalChars type.toList)) = 'A' :: 's' :: more ∧
      ∀ d, more.head? = some d → d.isUpper = false ∧ d.isLower = false := by
  obtain ⟨words, hwords, hword⟩ := markWords_cons 's' (pascalChars type.toList)
  obtain ⟨more, hmore, hhump⟩ := markHumps_cons (c := 's') rfl words
  have hfirst : ∀ cs, markWords false ('A' :: 's' :: cs) = 'A' :: markWords false ('s' :: cs) :=
    fun cs => by cases cs <;> rfl
  refine ⟨more, ?_, fun d hd => ?_⟩
  · rw [hfirst, hwords, ← hmore]
    rfl
  · rcases hhump d hd with rfl | ⟨hd, hupper⟩
    · exact ⟨rfl, rfl⟩
    · rcases hword d hd with rfl | hd
      · exact ⟨rfl, rfl⟩
      · exact ⟨hupper, head?_pascalChars hd⟩

/-- The snake case of the class of a type condition is `as`, alone or with a character after it that is none of `s` to `y`. -/
theorem snake_conditionClass (type : String) :
    ∃ rest, (attributeBase (conditionClass type)).toList = 'a' :: 's' :: rest ∧
      ∀ d, rest.head? = some d → d.toNat < 115 ∨ 121 < d.toNat := by
  obtain ⟨more, hmore, hnext⟩ := marked_conditionClass type
  refine ⟨Text.lowerFrom ['s', 'A'] more, ?_, fun d hd => ?_⟩
  · rw [attributeBase_conditionClass, snakeChars, hmore]
    rfl
  · cases more with
    | nil => cases hd
    | cons c rest =>
      obtain ⟨hupper, hlower⟩ := hnext c rfl
      rw [lowerFrom_cons, List.head?_append_of_ne_nil _ (lowerImage_ne_nil _ _ _)] at hd
      by_contra hletter
      rcases mem_lowerImage (List.mem_of_head? hd) with h | ⟨-, h⟩
      · rcases isLetter_of_lowerChar h (by omega) (by omega) with h | h
        · rw [hupper] at h
          cases h
        · rw [hlower] at h
          cases h
      · omega

/-- The snake case of the class of a type condition does not end in an underscore. -/
theorem getLast?_conditionClass (type : String) : (attributeBase (conditionClass type)).toList.getLast? ≠ some '_' := by
  rw [attributeBase_conditionClass]
  intro h
  have hmem := List.mem_of_getLast? (getLast?_of_snakeChars h)
  simp [underscore_notMem_pascalChars] at hmem

/-- Of the names that every attribute avoids, those that begin with `as` go on with a letter from `s` to `y`. -/
theorem reserved_as : ∀ word ∈ Text.reservedWords ++ recordAttributes, word.toList.take 2 = ['a', 's'] →
    word = "as" ∨ (word.toList.drop 2).head?.any (fun d => 115 ≤ d.toNat && d.toNat ≤ 121) = true := by
  decide +kernel

/-- Of the names that every attribute avoids, only `as` is the snake case of the class of a type condition. -/
theorem eq_as_of_conditionClass {type : String}
    (h : Text.isReserved (attributeBase (conditionClass type)) = true ∨
      attributeBase (conditionClass type) ∈ recordAttributes) :
    attributeBase (conditionClass type) = "as" := by
  obtain ⟨rest, hrest, hnext⟩ := snake_conditionClass type
  have hmem : attributeBase (conditionClass type) ∈ Text.reservedWords ++ recordAttributes := by
    simpa only [List.mem_append, Text.isReserved, List.contains_iff_mem] using h
  rcases reserved_as _ hmem (by rw [hrest]; rfl) with has | hletter
  · exact has
  · obtain ⟨d, hd, hrange⟩ := (Option.any_eq_true _ _).mp hletter
    rw [hrest] at hd
    have hother := hnext d hd
    simp only [Bool.and_eq_true, decide_eq_true_eq] at hrange
    omega

/-- Accessors begin with `a`. -/
theorem head?_accessor (type : String) : (accessor type).toList.head? = some 'a' := by
  obtain ⟨rest, hrest, -⟩ := snake_conditionClass type
  unfold accessor attributeName
  dsimp only
  split
  · rw [String.toList_append, hrest]
    rfl
  · rw [hrest]
    rfl

/-- An attribute that avoids accessors is one of them only if both are `as_`. -/
theorem eq_as_of_accessor {name : String} {types : List String}
    (h : attributeName name (types.map accessor) ∈ types.map accessor) : attributeName name (types.map accessor) = "as_" := by
  obtain ⟨type, -, htype⟩ := List.mem_map.mp h
  unfold attributeName at h htype ⊢
  dsimp only at h htype ⊢
  split at h
  · rename_i havoid
    rw [if_pos havoid] at htype ⊢
    rw [← htype]
    unfold accessor attributeName at htype ⊢
    dsimp only at htype ⊢
    split at htype
    · rename_i hown
      rw [if_pos hown, eq_as_of_conditionClass (by simpa using hown)]
      rfl
    · exact absurd htype.symm (append_underscore_ne (getLast?_conditionClass type))
  · rename_i hfree
    exact absurd (by simp [h]) hfree

end TypedOperations.Naming
