import TypedOperations.Proofs.Naming.Distinct

/-!
# Names found by counting up

The class of a record is searched for: the name that its key gives is tried first, and as long as a name is taken, the next one has
a number after it, from two on. Nothing bounds the search but the names that are taken, which are finitely many; `Finds` is the
search itself, and has a derivation only where it ends. Along the keys of one class, what is taken are the reserved names and the
names found so far, so a name is settled by the keys before its own.
-/

namespace TypedOperations.Naming

/-- The search for a name that is not taken, from the candidate `name` with the number `n` next: it ends with a free candidate. -/
inductive Finds (base : String) (taken : List String) : String → Nat → String → Prop where
  | free {name : String} {n : Nat} : name ∉ taken → Finds base taken name n name
  | next {name found : String} {n : Nat} :
      name ∈ taken → Finds base taken (base ++ toString n) (n + 1) found → Finds base taken name n found

namespace Finds

variable {base name found : String} {taken : List String} {n : Nat}

/-- What is found is the first candidate, or has a number that is not below the next one. -/
theorem eq_or_numbered (h : Finds base taken name n found) : found = name ∨ ∃ k ≥ n, found = base ++ toString k := by
  induction h with
  | free => exact Or.inl rfl
  | @next _ _ n _ _ ih =>
    rcases ih with ih | ⟨k, hk, ih⟩
    · exact Or.inr ⟨n, Nat.le_refl n, ih⟩
    · exact Or.inr ⟨k, Nat.le_of_succ_le hk, ih⟩

/-- The search depends on nothing but which names are taken, and finds one name. -/
theorem unique {taken' : List String} {found' : String} (hsame : ∀ other, other ∈ taken ↔ other ∈ taken')
    (h : Finds base taken name n found) (h' : Finds base taken' name n found') : found = found' := by
  induction h with
  | free hfree =>
    cases h' with
    | free => rfl
    | next htaken => exact absurd ((hsame _).mpr htaken) hfree
  | next htaken _ ih =>
    cases h' with
    | free hfree => exact absurd ((hsame _).mp htaken) hfree
    | next _ hrest => exact ih hrest

end Finds

/-- Counting up is the search, if it comes to a free name. -/
theorem finds_numbered {base : String} {taken : List String} (fuel : Nat) :
    ∀ n, numbered base taken fuel n ∉ taken → Finds base taken (base ++ toString n) (n + 1) (numbered base taken fuel n) := by
  induction fuel with
  | zero => exact fun n h => .free h
  | succ fuel ih =>
    intro n h
    rw [numbered] at h ⊢
    split at h
    · rename_i htaken
      rw [if_pos htaken]
      exact .next (List.contains_iff_mem.mp htaken) (ih (n + 1) h)
    · rename_i hfree
      rw [if_neg hfree]
      exact .free h

/-- The search for a fresh name ends, with that name. -/
theorem finds_fresh (base : String) (taken : List String) : Finds base taken base 2 (fresh base taken) := by
  have hfree := fresh_notMem base taken
  unfold fresh at hfree ⊢
  split at hfree
  · rename_i htaken
    rw [if_pos htaken]
    exact .next (List.contains_iff_mem.mp htaken) (finds_numbered taken.length 2 hfree)
  · rename_i hbase
    rw [if_neg hbase]
    exact .free hfree

/-! ## One key after another -/

/-- Names taken that are the same, in whatever order, give the same classes. -/
theorem distinctFrom_congr (keys : List String) :
    ∀ {names : Entries String} {taken taken' : List String}, (∀ other, other ∈ taken ↔ other ∈ taken') →
      distinctFrom names taken keys = distinctFrom names taken' keys := by
  induction keys with
  | nil => exact fun _ => rfl
  | cons key rest ih =>
    intro names taken taken' hsame
    have hfresh : fresh (recordClass key) taken = fresh (recordClass key) taken' :=
      (finds_fresh _ taken).unique hsame (finds_fresh _ taken')
    rw [distinctFrom, distinctFrom, hfresh]
    refine ih fun other => ?_
    rw [List.mem_cons, List.mem_cons, hsame]

/-- New keys join those that have classes, in order. -/
theorem names_distinctFrom (keys : List String) :
    ∀ (names : Entries String) (taken : List String), (names.names ++ keys).Nodup →
      (distinctFrom names taken keys).names = names.names ++ keys := by
  induction keys with
  | nil => exact fun names _ _ => (List.append_nil names.names).symm
  | cons key rest ih =>
    intro names taken hnodup
    have hnew : key ∉ names.names := fun h => List.disjoint_of_nodup_append hnodup h List.mem_cons_self
    have hput : (names.put key (fresh (recordClass key) taken)).names = names.names ++ [key] := by
      rw [Entries.names_put, if_neg hnew]
    rw [distinctFrom, ih, hput, List.append_assoc, List.singleton_append]
    rwa [hput, List.append_assoc, List.singleton_append]

/-- Some keys first and others after them: when the others are given classes, the names taken are those that were reserved and
those of the keys before. -/
theorem distinctFrom_append (reserved after : List String) (before : List String) :
    ∀ (names : Entries String) (taken : List String), (names.names ++ before).Nodup →
      (∀ other, other ∈ taken ↔ other ∈ reserved ∨ other ∈ names.values) →
      ∃ taken', (∀ other, other ∈ taken' ↔ other ∈ reserved ∨ other ∈ (distinctFrom names taken before).values) ∧
        distinctFrom names taken (before ++ after) = distinctFrom (distinctFrom names taken before) taken' after := by
  induction before with
  | nil => exact fun _ taken _ htaken => ⟨taken, htaken, rfl⟩
  | cons key rest ih =>
    intro names taken hnodup htaken
    have hnew : key ∉ names.names := fun h => List.disjoint_of_nodup_append hnodup h List.mem_cons_self
    rw [List.cons_append, distinctFrom, distinctFrom]
    refine ih _ _ ?_ fun other => ?_
    · rwa [Entries.names_put, if_neg hnew, List.append_assoc, List.singleton_append]
    · have hvalues : (names.put key (fresh (recordClass key) taken)).values = names.values ++ [fresh (recordClass key) taken] := by
        rw [Entries.put_of_notMem hnew, Entries.values, List.map_append]
        rfl
      rw [hvalues, List.mem_cons, htaken, List.mem_append, List.mem_singleton, or_comm, or_assoc]

/-- The class of a key is a fresh name beside the reserved names and the classes of the keys before it. -/
theorem get?_distinctClasses {before after reserved : List String} {key : String} (hkeys : (before ++ key :: after).Nodup) :
    (distinctClasses (before ++ key :: after) reserved).get? key =
      some (fresh (recordClass key) (reserved ++ (distinctClasses before reserved).values)) := by
  have hbefore : before.Nodup := (List.nodup_append.mp hkeys).1
  have hafter : key ∉ after := (List.nodup_cons.mp (List.nodup_append.mp hkeys).2.1).1
  obtain ⟨taken, htaken, hrun⟩ := distinctFrom_append reserved (key :: after) before [] reserved hbefore
    (fun other => by simp [Entries.values])
  have hfresh : fresh (recordClass key) taken = fresh (recordClass key) (reserved ++ (distinctClasses before reserved).values) :=
    (finds_fresh _ taken).unique (fun other => (htaken other).trans List.mem_append.symm) (finds_fresh _ _)
  rw [distinctClasses, hrun, distinctFrom, ← hfresh]
  rcases get?_distinctFrom key after _ _ with ⟨hin, -⟩ | ⟨-, hget⟩
  · exact absurd hin hafter
  · rw [hget, Entries.get?_put, if_pos rfl]

/-- The classes of distinct keys. Every key has one, in the order of the keys. The classes differ from one another and from the
reserved names, and each is the name that its key gives, alone or with a number from two on after it. The search for each of them
ends, where the reserved names and the classes of the keys before it are taken. So the class of a key stays the same whatever keys
come after it, and with the same names reserved in any order. -/
theorem distinctClasses_exact {keys : List String} (reserved : List String) (hkeys : keys.Nodup) :
    (distinctClasses keys reserved).names = keys ∧
      (distinctClasses keys reserved).values.Nodup ∧
      (∀ name ∈ (distinctClasses keys reserved).values, name ∉ reserved) ∧
      (∀ e ∈ distinctClasses keys reserved, e.2 = recordClass e.1 ∨ ∃ n ≥ 2, e.2 = recordClass e.1 ++ toString n) ∧
      (∀ before key after, keys = before ++ key :: after →
        ∃ name, (distinctClasses keys reserved).get? key = some name ∧
          Finds (recordClass key) (reserved ++ (distinctClasses before reserved).values) (recordClass key) 2 name) ∧
      ∀ before key after after' reserved', keys = before ++ key :: after → (before ++ key :: after').Nodup →
        (∀ other, other ∈ reserved' ↔ other ∈ reserved) →
        (distinctClasses (before ++ key :: after') reserved').get? key = (distinctClasses keys reserved).get? key := by
  have hnames : (distinctClasses keys reserved).names = keys := names_distinctFrom keys [] reserved hkeys
  have hvalues := Entries.values_eq_map_get? (hnames.symm ▸ hkeys) ""
  obtain ⟨hdistinct, hmade⟩ := @distinctClasses_names keys keys reserved hkeys hkeys (List.Subset.refl keys)
  rw [hnames] at hvalues
  refine ⟨hnames, hvalues ▸ hdistinct, fun name hname => (hmade name (hvalues ▸ hname)).1, fun e he => ?_, ?_, ?_⟩
  · have hget := Entries.get?_of_mem (hnames.symm ▸ hkeys) he
    obtain ⟨avoided, hfresh⟩ := @exists_distinctClass _ _ reserved (mem_of_distinctClass hget)
    rw [hget] at hfresh
    rw [Option.some.inj hfresh]
    exact (finds_fresh _ avoided).eq_or_numbered
  · rintro before key after rfl
    exact ⟨_, get?_distinctClasses hkeys, finds_fresh _ _⟩
  · rintro before key after after' reserved' rfl hkeys' hsame
    rw [get?_distinctClasses hkeys, get?_distinctClasses hkeys', distinctClasses, distinctFrom_congr before hsame]
    refine congrArg some ((finds_fresh _ _).unique (fun other => ?_) (finds_fresh _ _))
    rw [List.mem_append, List.mem_append, hsame]
    rfl

/-- The second key gives the name that the first has, and the third one gives the name that the second was given for it. -/
theorem distinctClasses_exact_friends :
    ["friends", "friend", "friend2", "fragments"].Nodup ∧
      distinctClasses ["friends", "friend", "friend2", "fragments"] ["Fragment", "Fragment2"] =
        [("friends", "Friend"), ("friend", "Friend2"), ("friend2", "Friend22"), ("fragments", "Fragment3")] ∧
      (distinctClasses ["friends", "friend", "friend2", "fragments"] ["Fragment", "Fragment2"]).values.Nodup ∧
      Finds "Friend2" ["Fragment", "Fragment2", "Friend", "Friend2"] "Friend2" 2 "Friend22" := by
  have hkeys : ["friends", "friend", "friend2", "fragments"].Nodup := by decide
  have hclasses : distinctClasses ["friends", "friend", "friend2", "fragments"] ["Fragment", "Fragment2"] =
      [("friends", "Friend"), ("friend", "Friend2"), ("friend2", "Friend22"), ("fragments", "Fragment3")] := by decide +kernel
  have hbefore : distinctClasses ["friends", "friend"] ["Fragment", "Fragment2"] = [("friends", "Friend"), ("friend", "Friend2")] := by
    decide +kernel
  have hthird : recordClass "friend2" = "Friend2" := by decide +kernel
  obtain ⟨-, hdistinct, -, -, hsearch, -⟩ := distinctClasses_exact ["Fragment", "Fragment2"] hkeys
  obtain ⟨name, hname, hfinds⟩ := hsearch ["friends", "friend"] "friend2" ["fragments"] rfl
  rw [hclasses] at hname
  cases hname
  rw [hbefore, hthird] at hfinds
  exact ⟨hkeys, hclasses, hdistinct, hfinds⟩

end TypedOperations.Naming
