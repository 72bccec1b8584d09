import TypedOperations.Proofs.Naming.Singular

/-!
# Endings of singular nouns

The singular of a noun is the noun without an `s` at its end, or else one of finitely many endings was recognised: of a noun that
has no plural, of an irregular plural, or of a rule. What is known of those endings is checked once for all rules and nouns:
neither they nor what is put in their place is how a constant of the target language ends (`isApart`). So only the first kind of
noun can have a constant for its singular.
-/

namespace TypedOperations.Naming

open Text

/-- The text without one `s` at its end, in either case. -/
def dropPlural (cs : List Char) : List Char :=
  if cs.getLast?.any (fun c => c.toLower == 's') then cs.dropLast else cs

/-- The constants of the target language, in lower case. -/
def constants : List String := ["false", "none", "true"]

/-- Small letters that no constant ends in. -/
def isApart (ending : List Char) : Bool :=
  !ending.isEmpty && ending.all Char.isLower && constants.all fun word => !ending.isSuffixOf word.toList

/-- The two texts differ in their last letters only, and neither ends as a constant does. -/
def Inflected (cs inflected : List Char) : Prop :=
  ∃ stem ending ending', cs = stem ++ ending ∧ inflected = stem ++ ending' ∧
    isApart (ending.map Char.toLower) = true ∧ isApart (ending'.map Char.toLower) = true ∧
    (stem = [] → ending.head?.map Char.toLower = ending'.head?.map Char.toLower)

variable {cs : List Char}

theorem isApart_iff {ending : List Char} :
    isApart ending = true ↔
      ending ≠ [] ∧ (∀ c ∈ ending, c.isLower = true) ∧ ∀ word ∈ constants, ¬ending <:+ word.toList := by
  simp [isApart, and_assoc, ← List.isSuffixOf_iff_suffix]

/-! ## One letter -/

theorem dropPlural_append {stem : List Char} (h : cs ≠ []) : dropPlural (stem ++ cs) = stem ++ dropPlural cs := by
  rw [dropPlural, dropPlural, List.getLast?_append_of_ne_nil _ h, List.dropLast_append_of_ne_nil h]
  split <;> rfl

theorem map_dropPlural (cs : List Char) : (dropPlural cs).map Char.toLower = dropPlural (cs.map Char.toLower) := by
  have hlast : (cs.map Char.toLower).getLast?.any (fun c => c.toLower == 's') = cs.getLast?.any fun c => c.toLower == 's' := by
    cases hcs : cs.getLast? <;> simp [List.getLast?_map, hcs]
  rw [dropPlural, dropPlural, hlast]
  split
  · rw [List.map_dropLast]
  · rfl

theorem head?_of_beginning {beginning : List Char} (h : beginning <+: cs) (hne : beginning ≠ []) :
    beginning.head? = cs.head? := by
  obtain ⟨rest, rfl⟩ := h
  exact (List.head?_append_of_ne_nil _ hne).symm

theorem dropPlural_beginning (cs : List Char) : dropPlural cs <+: cs := by
  rw [dropPlural]
  split
  · exact List.dropLast_prefix cs
  · exact List.prefix_refl cs

/-- What is put in the place of an ending is read against the noun without its `s`. -/
theorem inflected_dropPlural {stem ending ending' : List Char}
    (hending : isApart (dropPlural (ending.map Char.toLower)) = true) (hending' : isApart (ending'.map Char.toLower) = true)
    (hhead : stem = [] → ending.head?.map Char.toLower = ending'.head?.map Char.toLower) :
    Inflected (dropPlural (stem ++ ending)) (stem ++ ending') := by
  have hdropped : dropPlural ending ≠ [] := by
    rw [← map_dropPlural] at hending
    rintro hnil
    rw [hnil] at hending
    cases hending
  have hne : ending ≠ [] := by
    rintro rfl
    exact hdropped rfl
  refine ⟨stem, dropPlural ending, ending', dropPlural_append hne, rfl, ?_, hending', fun hstem => ?_⟩
  · rwa [map_dropPlural]
  · rw [head?_of_beginning (dropPlural_beginning ending) hdropped, hhead hstem]

/-! ## Endings of rules -/

/-- Small letters and ASCII characters are compared without case. -/
theorem sameLetter_iff {p c : Char} (hp : p.isLower = true) (hc : c.toNat < 128) : sameLetter p c = true ↔ c.toLower = p := by
  have hsmall : p.toLower = p := toLower_eq_self (isUpper_of_isLower hp)
  constructor
  · intro h
    simp only [sameLetter, Bool.or_eq_true, Bool.and_eq_true, beq_iff_eq] at h
    rcases h with ((rfl | h) | ⟨-, h⟩) | ⟨-, h | h⟩
    · exact hsmall
    · exact h
    all_goals omega
  · rintro rfl
    simp [sameLetter]

/-- An ending that is dropped stood there, in some case. -/
theorem append_of_dropEnding {ending stem : List Char} (hending : ∀ p ∈ ending, p.isLower = true)
    (hascii : ∀ c ∈ cs, c.toNat < 128) (h : dropEnding? ending cs = some stem) :
    ∃ dropped, cs = dropped ++ stem ∧ dropped.map Char.toLower = ending := by
  fun_induction dropEnding? ending cs with
  | case1 cs => exact ⟨[], Option.some.inj h, rfl⟩
  | case2 => cases h
  | case3 p ps c cs hsame ih =>
    obtain ⟨hp, hps⟩ := List.forall_mem_cons.mp hending
    obtain ⟨hc, hcs⟩ := List.forall_mem_cons.mp hascii
    obtain ⟨dropped, rfl, hdropped⟩ := ih hps hcs h
    refine ⟨c :: dropped, rfl, ?_⟩
    rw [List.map_cons, hdropped, (sameLetter_iff hp hc).mp hsame]
  | case4 => cases h

/-- The same for texts that are given reversed. -/
theorem append_of_dropEnding_reverse {ending : String} {stem : List Char} (hending : ending.toList.all Char.isLower = true)
    (hascii : ∀ c ∈ cs, c.toNat < 128) (h : dropEnding? ending.toList.reverse cs.reverse = some stem) :
    ∃ dropped, cs = stem.reverse ++ dropped ∧ dropped.map Char.toLower = ending.toList := by
  obtain ⟨dropped, hcs, hdropped⟩ := append_of_dropEnding
    (fun p hp => List.all_eq_true.mp hending p (List.mem_reverse.mp hp)) (fun c hc => hascii c (List.mem_reverse.mp hc)) h
  refine ⟨dropped.reverse, ?_, ?_⟩
  · rw [← List.reverse_append, ← hcs, List.reverse_reverse]
  · rw [List.map_reverse, hdropped, List.reverse_reverse]

/-- A rule that applies puts its letters in the place of an ending, after a stem that fits. -/
theorem EndingRule.append_of_replace {rule : EndingRule} (hending : rule.ending.toList.all Char.isLower = true)
    {replaced : List Char} (hascii : ∀ c ∈ cs, c.toNat < 128) (h : rule.replace? cs.reverse = some replaced) :
    ∃ stem dropped, cs = stem ++ dropped ∧ dropped.map Char.toLower = rule.ending.toList ∧
      rule.stem.fits stem.reverse = true ∧ replaced.reverse = stem ++ rule.singular.toList := by
  rw [replace?] at h
  split at h
  · rename_i reversed hstem
    obtain ⟨dropped, hcs, hdropped⟩ := append_of_dropEnding_reverse hending hascii hstem
    split at h
    · rename_i hfits
      cases h
      refine ⟨reversed.reverse, dropped, hcs, hdropped, ?_, ?_⟩
      · rwa [List.reverse_reverse]
      · rw [List.reverse_append, List.reverse_reverse]
    · cases h
  · cases h

/-- The rule drops an `s` after anything, or else what it recognises, without its `s`, and what it leaves end as no constant
does. -/
def EndingRule.isApart (rule : EndingRule) : Bool :=
  rule.ending.toList.all Char.isLower &&
    match rule.stem with
    | .anything => rule.ending == "s" && rule.singular == ""
    | .oneOf endings => endings.all fun e =>
      e != "" && e.toList.all Char.isLower && Naming.isApart (dropPlural (e.toList ++ rule.ending.toList)) &&
        Naming.isApart (e.toList ++ rule.singular.toList.map Char.toLower)
    | .otherThan _ => Naming.isApart (dropPlural rule.ending.toList) && Naming.isApart (rule.singular.toList.map Char.toLower)

theorem endingRules_apart : ∀ rule ∈ endingRules, rule.isApart = true := by
  decide +kernel

/-- A rule that applies drops an `s`, or the noun is inflected. -/
theorem EndingRule.replace_cases {rule : EndingRule} (hrule : rule.isApart = true) {replaced : List Char}
    (hascii : ∀ c ∈ cs, c.toNat < 128) (h : rule.replace? cs.reverse = some replaced) :
    replaced.reverse = dropPlural cs ∨ Inflected (dropPlural cs) replaced.reverse := by
  obtain ⟨hending, hrule⟩ := Bool.and_eq_true_iff.mp hrule
  obtain ⟨stem, dropped, rfl, hdropped, hfits, hreplaced⟩ := append_of_replace hending hascii h
  rw [hreplaced]
  split at hrule
  · -- nothing but the `s` is dropped
    simp only [Bool.and_eq_true, beq_iff_eq] at hrule
    have hsmall : dropped.map Char.toLower = ['s'] := by
      rw [hdropped, hrule.1]
      rfl
    obtain ⟨s, rest, rfl, hs, hrest⟩ := List.map_eq_cons_iff.mp hsmall
    rw [List.map_eq_nil_iff.mp hrest, hrule.2, dropPlural_append (List.cons_ne_nil s [])]
    left
    simp [dropPlural, hs]
  · rename_i endings hstem
    rw [hstem] at hfits
    obtain ⟨e, he, hfitting⟩ := List.any_eq_true.mp hfits
    obtain ⟨reversed, hreversed⟩ := Option.isSome_iff_exists.mp hfitting
    have hchecked := List.all_eq_true.mp hrule e he
    simp only [Bool.and_eq_true, bne_iff_ne] at hchecked
    obtain ⟨⟨⟨hne, hsmall⟩, hapart⟩, hapart'⟩ := hchecked
    obtain ⟨found, hstem, hfound⟩ :=
      append_of_dropEnding_reverse hsmall (fun c hc => hascii c (List.mem_append_left dropped hc)) hreversed
    have hsome : found ≠ [] := by
      rintro rfl
      exact hne (String.toList_eq_nil_iff.mp hfound.symm)
    right
    rw [hstem, List.append_assoc, List.append_assoc]
    refine inflected_dropPlural ?_ ?_ fun _ => ?_
    · rwa [List.map_append, hfound, hdropped]
    · rwa [List.map_append, hfound]
    · rw [List.head?_append_of_ne_nil _ hsome, List.head?_append_of_ne_nil _ hsome]
  · rename_i letters hstem
    rw [hstem] at hfits
    rw [Bool.and_eq_true] at hrule
    right
    refine inflected_dropPlural (hdropped ▸ hrule.1) hrule.2 fun hnil => ?_
    rw [hnil] at hfits
    cases hfits

/-! ## Nouns -/

theorem Inflected.append {inflected : List Char} (h : Inflected cs inflected) (head : List Char) :
    Inflected (head ++ cs) (head ++ inflected) := by
  obtain ⟨stem, ending, ending', rfl, rfl, hending, hending', hhead⟩ := h
  refine ⟨head ++ stem, ending, ending', (List.append_assoc ..).symm, (List.append_assoc ..).symm, hending, hending', ?_⟩
  exact fun hnil => hhead (List.append_eq_nil_iff.mp hnil).2

theorem reversedBody_of_noFeed (h : '\n' ∉ cs) : reversedBody cs = ([], cs.reverse) := by
  rw [reversedBody]
  split
  · rename_i body hbody
    exact absurd (List.mem_reverse.mp (hbody ▸ List.mem_cons_self)) h
  · rfl

/-- The last word comes after the rest of the name, and is empty only if the name is. -/
theorem append_splitLastWord (h : '\n' ∉ cs) :
    (splitLastWord cs).1 ++ (splitLastWord cs).2 = cs ∧ ((splitLastWord cs).2 = [] → cs = []) := by
  rw [splitLastWord, reversedBody_of_noFeed h]
  split
  · rename_i word before hword
    refine ⟨?_, fun hnil => absurd (List.reverse_eq_nil_iff.mp hnil) (ne_nil_of_lastWord hword)⟩
    rw [← List.reverse_append, append_of_lastWord hword, List.reverse_reverse]
  · exact ⟨rfl, id⟩

/-- A word that a rule applies to loses an `s`, or is inflected. -/
theorem inflect_cases {inflected : List Char} (hascii : ∀ c ∈ cs, c.toNat < 128) (hfeed : '\n' ∉ cs)
    (h : inflect? cs = some inflected) : inflected = dropPlural cs ∨ Inflected (dropPlural cs) inflected := by
  rw [inflect?, reversedBody_of_noFeed hfeed] at h
  obtain ⟨replaced, hreplaced, rfl⟩ := Option.map_eq_some_iff.mp h
  obtain ⟨rule, hrule, hreplace⟩ := List.exists_of_findSome?_eq_some hreplaced
  rw [List.append_nil]
  exact rule.replace_cases (endingRules_apart rule hrule) hascii hreplace

/-- A word that no rule applies to has no `s` at its end. -/
theorem dropPlural_of_inflect_none (hfeed : '\n' ∉ cs) (h : inflect? cs = none) : dropPlural cs = cs := by
  rw [inflect?, reversedBody_of_noFeed hfeed] at h
  have hlast := List.findSome?_eq_none_iff.mp (Option.map_eq_none_iff.mp h) ⟨.anything, "s", ""⟩ (by simp [endingRules])
  rcases List.eq_nil_or_concat cs with rfl | ⟨body, c, rfl⟩
  · rfl
  · have hc : c.toLower ≠ 's' := by
      rintro hc
      have hsame : sameLetter 's' c = true := by simp [sameLetter, hc]
      simp [EndingRule.replace?, dropEnding?, Stem.fits, hsame] at hlast
    simp [dropPlural, hc]

theorem uncountableNouns_apart :
    ∀ noun ∈ uncountableNouns, isApart (dropPlural noun.toList) = true ∧ isApart noun.toList = true := by
  decide +kernel

theorem irregularPlurals_apart :
    ∀ e ∈ irregularPlurals, isApart (dropPlural e.1.toList) = true ∧ isApart e.2.toList = true ∧
      e.2.toList.map Char.toLower = e.2.toList ∧ e.1.toList.head? = e.2.toList.head? := by
  decide +kernel

/-- In lower case, a noun with a capital for its first letter is the same noun. -/
theorem map_capitalized (noun : List Char) :
    ((noun.take 1).map Char.toUpper ++ noun.drop 1).map Char.toLower = noun.map Char.toLower := by
  cases noun <;> simp

/-- The singular of a noun is the noun without an `s` at its end, or the noun is inflected. -/
theorem singular_cases (hascii : ∀ c ∈ cs, c.toNat < 128) (hfeed : '\n' ∉ cs) :
    (singular (String.ofList cs)).toList = dropPlural cs ∨ Inflected (dropPlural cs) (singular (String.ofList cs)).toList := by
  obtain ⟨happend, hnil⟩ := append_splitLastWord hfeed
  rw [singular, String.toList_ofList]
  generalize splitLastWord cs = parts at happend hnil
  obtain ⟨head, tail⟩ := parts
  dsimp only at happend hnil ⊢
  subst happend
  have htail : ∀ c ∈ tail, c.toNat < 128 := fun c hc => hascii c (List.mem_append_right head hc)
  have hfeed' : '\n' ∉ tail := fun h => hfeed (List.mem_append_right head h)
  have hplural : dropPlural (head ++ tail) = head ++ dropPlural tail := by
    by_cases h : tail = []
    · rw [(List.append_eq_nil_iff.mp (hnil h)).1, List.nil_append, List.nil_append]
    · exact dropPlural_append h
  rw [show Text.lower tail = tail.map Char.toLower from lowerFrom_of_ascii tail htail]
  split
  · rename_i hnoun
    obtain ⟨hapart, hapart'⟩ := uncountableNouns_apart _ (List.contains_iff_mem.mp hnoun)
    rw [String.toList_ofList] at hapart hapart' ⊢
    exact Or.inr (inflected_dropPlural hapart hapart' fun _ => rfl)
  · split
    · rename_i noun hnoun
      obtain ⟨before, after, htable, -⟩ := List.lookup_eq_some_iff.mp hnoun
      obtain ⟨hapart, hapart', hsmall, hhead⟩ :=
        irregularPlurals_apart _ (htable.symm ▸ List.mem_append_right before List.mem_cons_self)
      rw [String.toList_ofList] at hapart hhead ⊢
      right
      split
      · have hcapital := (map_capitalized noun.toList).trans hsmall
        refine inflected_dropPlural hapart (hcapital.symm ▸ hapart') fun _ => ?_
        rw [← List.head?_map, ← List.head?_map, hcapital, hhead]
      · refine inflected_dropPlural hapart (hsmall.symm ▸ hapart') fun _ => ?_
        rw [← List.head?_map, ← List.head?_map, hsmall, hhead]
    · split
      · rename_i inflected hinflected
        rw [String.toList_ofList, hplural]
        exact (inflect_cases htail hfeed' hinflected).imp (fun h => by rw [h]) fun h => h.append head
      · rename_i hnone
        rw [String.toList_ofList, hplural, dropPlural_of_inflect_none hfeed' hnone]
        exact Or.inl rfl

end TypedOperations.Naming
