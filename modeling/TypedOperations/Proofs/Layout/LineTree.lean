import Mathlib.Data.List.Chain
import TypedOperations.Text.Blank

/-!
# Reading indented text

A text is read by its indentation as a tree of lines: lines of blanks are left out, four blanks make a level, and every line is
below the nearest earlier line that is one level up. The lines of a tree, each at its own level, are read back as the tree
(`takeBelow_forest`).
-/

namespace TypedOperations.Layout

/-- A line and the lines below it. -/
inductive LineTree where
  | node (text : String) (below : List LineTree)

mutual

/-- The lines of a tree with their levels, of which the first is at the given one. -/
def LineTree.lines (level : Nat) : LineTree → List (Nat × String)
  | .node text below => (level, text) :: forestLines (level + 1) below

/-- The lines of trees one after another. -/
def forestLines (level : Nat) : List LineTree → List (Nat × String)
  | [] => []
  | t :: rest => t.lines level ++ forestLines level rest

end

/-! ## The reader -/

/-- The lines of a text; after a line end at the very end there is an empty one. -/
def textLines (text : String) : List (List Char) :=
  text.toList.splitOn '\n'

/-- The line has nothing but blanks. -/
def isBlankLine (line : List Char) : Bool :=
  line.all Text.isBlank

/-- How many spaces a line starts with. -/
def indentOf (line : List Char) : Nat :=
  (line.takeWhile (· == ' ')).length

/-- The level of a line and its text; the spaces it starts with have to make whole levels. -/
def placed? (line : List Char) : Option (Nat × String) :=
  if indentOf line % 4 = 0 then some (indentOf line / 4, String.ofList (line.dropWhile (· == ' '))) else none

/-- The trees of lines with the levels of their first lines, as far as they are below no line. A line takes all later trees one
level down that no line between has taken. -/
def takeBelow : List (Nat × String) → List (Nat × LineTree)
  | [] => []
  | (level, text) :: rest =>
    (level, .node text (((takeBelow rest).filter (·.1 == level + 1)).map (·.2))) ::
      (takeBelow rest).filter (·.1 != level + 1)

/-- A text read as trees of lines; none if the spaces before a line make no level, or a line has no line to be below. -/
def readTrees (text : String) : Option (List LineTree) := do
  let lines ← ((textLines text).filter (!isBlankLine ·)).mapM placed?
  if (takeBelow lines).all (·.1 == 0) then some ((takeBelow lines).map (·.2)) else none

/-! ## Reading trees back -/

mutual

/-- A tree before lines that are no deeper is read as the tree. -/
theorem takeBelow_tree (level : Nat) (rest : List (Nat × String)) (hrest : ∀ e ∈ takeBelow rest, e.1 ≤ level) :
    ∀ t : LineTree, takeBelow (t.lines level ++ rest) = (level, t) :: takeBelow rest
  | .node text below => by
    have hbelow := takeBelow_forest (level + 1) rest (fun e he => Nat.le_succ_of_le (hrest e he)) below
    have htaken : (takeBelow (forestLines (level + 1) below ++ rest)).filter (·.1 == level + 1) =
        below.map (level + 1, ·) := by
      rw [hbelow, List.filter_append, List.filter_eq_self.mpr, List.filter_eq_nil_iff.mpr, List.append_nil]
      · intro e he
        have := hrest e he
        simp only [beq_iff_eq]
        omega
      · simp
    have hleft : (takeBelow (forestLines (level + 1) below ++ rest)).filter (·.1 != level + 1) = takeBelow rest := by
      rw [hbelow, List.filter_append, List.filter_eq_nil_iff.mpr, List.filter_eq_self.mpr, List.nil_append]
      · intro e he
        have := hrest e he
        simp only [bne_iff_ne]
        omega
      · simp
    rw [LineTree.lines, List.cons_append, takeBelow, htaken, hleft]
    simp [Function.comp_def]

/-- Trees before lines that are no deeper are read as the trees. -/
theorem takeBelow_forest (level : Nat) (rest : List (Nat × String)) (hrest : ∀ e ∈ takeBelow rest, e.1 ≤ level) :
    ∀ ts : List LineTree, takeBelow (forestLines level ts ++ rest) = ts.map (level, ·) ++ takeBelow rest
  | [] => rfl
  | t :: ts => by
    have hts := takeBelow_forest level rest hrest ts
    have hlevels : ∀ e ∈ takeBelow (forestLines level ts ++ rest), e.1 ≤ level := by
      intro e he
      rw [hts, List.mem_append, List.mem_map] at he
      rcases he with ⟨t', -, rfl⟩ | he
      · exact Nat.le_refl _
      · exact hrest e he
    rw [forestLines, List.append_assoc, takeBelow_tree level _ hlevels t, hts]
    rfl

end

/-- The lines of trees are read as the trees. -/
theorem takeBelow_forestLines (level : Nat) (ts : List LineTree) : takeBelow (forestLines level ts) = ts.map (level, ·) := by
  have h := takeBelow_forest level [] (fun _ he => nomatch he) ts
  rwa [List.append_nil, takeBelow, List.append_nil] at h

mutual

theorem LineTree.level_le {level : Nat} {e : Nat × String} : ∀ t : LineTree, e ∈ t.lines level → level ≤ e.1
  | .node text below => by
    intro he
    rw [LineTree.lines, List.mem_cons] at he
    rcases he with rfl | he
    · exact Nat.le_refl _
    · exact Nat.le_of_succ_le (forest_level_le below he)

/-- Every line of trees is at their level or deeper. -/
theorem forest_level_le {level : Nat} {e : Nat × String} : ∀ ts : List LineTree, e ∈ forestLines level ts → level ≤ e.1
  | [] => fun he => nomatch he
  | t :: ts => by
    intro he
    rw [forestLines, List.mem_append] at he
    rcases he with he | he
    · exact t.level_le he
    · exact forest_level_le ts he

end

/-- The first line of trees is at their level. -/
theorem head?_forestLines {level : Nat} {e : Nat × String} (ts : List LineTree) (he : (forestLines level ts).head? = some e) :
    e.1 = level := by
  cases ts with
  | nil => cases he
  | cons t ts =>
    obtain ⟨text, below⟩ := t
    cases he
    rfl

theorem forestLines_append (level : Nat) (ts ts' : List LineTree) :
    forestLines level (ts ++ ts') = forestLines level ts ++ forestLines level ts' := by
  induction ts with
  | nil => rfl
  | cons t rest ih => rw [List.cons_append, forestLines, forestLines, ih, List.append_assoc]

theorem forestLines_eq_nil (level : Nat) {ts : List LineTree} : forestLines level ts = [] ↔ ts = [] := by
  cases ts with
  | nil => simp [forestLines]
  | cons t rest =>
    obtain ⟨text, below⟩ := t
    simp [forestLines, LineTree.lines]

/-! ## Lines with blank lines between them -/

/-- A text that stands on one line: it is not empty, has no line end, and does not begin with a blank. -/
structure OneLine (text : String) : Prop where
  notEmpty : text ≠ ""
  noLineEnd : '\n' ∉ text.toList
  noBlank : ∀ c ∈ text.toList.head?, Text.isBlank c = false

instance (text : String) : Decidable (OneLine text) :=
  decidable_of_iff (text ≠ "" ∧ '\n' ∉ text.toList ∧ text.toList.head?.all (!Text.isBlank ·) = true)
    ⟨fun ⟨h, h', h''⟩ => ⟨h, h', by simpa [Option.all_eq_true] using h''⟩,
      fun h => ⟨h.notEmpty, h.noLineEnd, by simpa [Option.all_eq_true] using h.noBlank⟩⟩

theorem OneLine.exists_first {text : String} (h : OneLine text) :
    ∃ c rest, text.toList = c :: rest ∧ Text.isBlank c = false := by
  cases htext : text.toList with
  | nil => exact absurd (String.toList_eq_nil_iff.mp htext) h.notEmpty
  | cons c rest => exact ⟨c, rest, rfl, h.noBlank c (by simp [htext])⟩

/-- A line at a level, after so many empty ones. -/
structure Placed where
  blanks : Nat
  level : Nat
  text : String

namespace Placed

/-- The line itself. -/
def line (p : Placed) : List Char :=
  List.replicate (4 * p.level) ' ' ++ p.text.toList

/-- The lines that are written. -/
def lines (p : Placed) : List (List Char) :=
  List.replicate p.blanks [] ++ [p.line]

variable {p : Placed} (hp : OneLine p.text)

include hp

theorem isBlankLine_line : isBlankLine p.line = false := by
  obtain ⟨c, rest, htext, hc⟩ := hp.exists_first
  simp [isBlankLine, line, htext, hc]

theorem takeWhile_line : p.line.takeWhile (· == ' ') = List.replicate (4 * p.level) ' ' := by
  obtain ⟨c, rest, htext, hc⟩ := hp.exists_first
  have hspace : (c == ' ') = false := by
    rw [beq_eq_false_iff_ne]
    rintro rfl
    cases hc
  rw [line, htext, List.takeWhile_append_of_pos (by simp), List.takeWhile_cons, hspace]
  simp

theorem dropWhile_line : p.line.dropWhile (· == ' ') = p.text.toList := by
  have h := List.takeWhile_append_dropWhile (p := (· == ' ')) (l := p.line)
  rw [takeWhile_line hp, line] at h
  exact List.append_cancel_left h

theorem indentOf_line : indentOf p.line = 4 * p.level := by
  rw [indentOf, takeWhile_line hp, List.length_replicate]

/-- A line is read as its text at its level. -/
theorem placed?_line : placed? p.line = some (p.level, p.text) := by
  have hmod : 4 * p.level % 4 = 0 := by omega
  have hdiv : 4 * p.level / 4 = p.level := by omega
  rw [placed?, indentOf_line hp, dropWhile_line hp, if_pos hmod, hdiv, String.ofList_toList]

theorem lineEnd_notMem : ∀ l ∈ p.lines, '\n' ∉ l := by
  intro l hl
  rw [lines, List.mem_append, List.mem_singleton] at hl
  rcases hl with hl | rfl
  · rw [List.eq_of_mem_replicate hl]
    exact List.not_mem_nil
  · rw [line, List.mem_append, not_or]
    refine ⟨fun h => ?_, hp.noLineEnd⟩
    cases List.eq_of_mem_replicate h

end Placed

section
variable {log : List Placed} {text : String}

/-- The lines that are not blank are those that were placed. -/
theorem filter_lines (hlog : ∀ p ∈ log, OneLine p.text) :
    (log.flatMap Placed.lines).filter (!isBlankLine ·) = log.map Placed.line := by
  induction log with
  | nil => rfl
  | cons p rest ih =>
    have hp : OneLine p.text := hlog p List.mem_cons_self
    have hempty : isBlankLine [] = true := rfl
    have hlines : p.lines.filter (!isBlankLine ·) = [p.line] := by
      simp [Placed.lines, Placed.isBlankLine_line hp, hempty]
    rw [List.flatMap_cons, List.filter_append, hlines, ih fun q hq => hlog q (List.mem_cons_of_mem _ hq)]
    rfl

/-- Lines that were placed as those of trees are read as the trees. -/
theorem readTrees_of_placed {ts : List LineTree} (htext : textLines text = log.flatMap Placed.lines ++ [[]])
    (hlog : ∀ p ∈ log, OneLine p.text) (htrees : log.map (fun p => (p.level, p.text)) = forestLines 0 ts) :
    readTrees text = some ts := by
  have hread : (log.map Placed.line).mapM placed? = some (log.map fun p => (p.level, p.text)) := by
    clear htext htrees
    induction log with
    | nil => rfl
    | cons p rest ih =>
      rw [List.map_cons, List.mapM_cons, Placed.placed?_line (hlog p List.mem_cons_self),
        ih fun q hq => hlog q (List.mem_cons_of_mem _ hq)]
      rfl
  have hlines : (textLines text).filter (!isBlankLine ·) = log.map Placed.line := by
    rw [htext, List.filter_append, filter_lines hlog]
    simp [isBlankLine]
  rw [readTrees, hlines, hread, htrees, Option.bind_eq_bind, Option.bind_some, takeBelow_forestLines]
  simp [Function.comp_def]

/-- No three lines in a row are blank. -/
def FewBlanks (lines : List (List Char)) : Prop :=
  ∀ i a b c, lines[i]? = some a → lines[i + 1]? = some b → lines[i + 2]? = some c →
    isBlankLine a = false ∨ isBlankLine b = false ∨ isBlankLine c = false

/-- A line directly follows the line it is below, if that is the last one before it that is not blank. -/
def HeadersTight (lines : List (List Char)) : Prop :=
  ∀ i j above below, lines[i]? = some above → lines[j]? = some below → i < j → isBlankLine above = false →
    isBlankLine below = false → (∀ k l, i < k → k < j → lines[k]? = some l → isBlankLine l = true) →
    indentOf above < indentOf below → j = i + 1

theorem getElem?_lines (p : Placed) (rest : List (List Char)) (i : Nat) :
    (p.lines ++ rest)[i]? =
      if i < p.blanks then some [] else if i = p.blanks then some p.line else rest[i - p.blanks - 1]? := by
  rw [Placed.lines, List.append_assoc, List.getElem?_append, List.length_replicate]
  by_cases hlt : i < p.blanks
  · simp [hlt]
  · rw [if_neg hlt, if_neg hlt]
    by_cases heq : i = p.blanks
    · simp [heq]
    · have hpos : i - p.blanks = (i - p.blanks - 1) + 1 := by omega
      rw [if_neg heq, hpos, List.singleton_append, List.getElem?_cons_succ]
      rfl

theorem getElem?_self (p : Placed) (rest : List (List Char)) : (p.lines ++ rest)[p.blanks]? = some p.line := by
  simp [getElem?_lines]

/-- The lines after a placed one are looked up by their distance from it. -/
theorem getElem?_after (p : Placed) (rest : List (List Char)) (i : Nat) :
    (p.lines ++ rest)[p.blanks + 1 + i]? = rest[i]? := by
  rw [getElem?_lines, if_neg (by omega), if_neg (by omega)]
  congr 1
  omega

theorem fewBlanks_of_placed (hlog : ∀ p ∈ log, OneLine p.text) (hblanks : ∀ p ∈ log, p.blanks ≤ 2) :
    FewBlanks (log.flatMap Placed.lines ++ [[]]) := by
  induction log with
  | nil => intro i a b c ha hb; simp at ha hb
  | cons p rest ih =>
    have hp : isBlankLine p.line = false := Placed.isBlankLine_line (hlog p List.mem_cons_self)
    have hle : p.blanks ≤ 2 := hblanks p List.mem_cons_self
    have hrest := ih (fun q hq => hlog q (List.mem_cons_of_mem _ hq)) fun q hq => hblanks q (List.mem_cons_of_mem _ hq)
    intro i a b c ha hb hc
    rw [List.flatMap_cons, List.append_assoc] at ha hb hc
    have hself : (p.lines ++ (rest.flatMap Placed.lines ++ [[]]))[p.blanks]? = some p.line := getElem?_self p _
    by_cases hi : p.blanks < i
    · -- all three come after the first line
      obtain ⟨m, rfl⟩ : ∃ m, i = p.blanks + 1 + m := ⟨i - p.blanks - 1, by omega⟩
      exact hrest m a b c ((getElem?_after p _ m).symm.trans ha) ((getElem?_after p _ (m + 1)).symm.trans hb)
        ((getElem?_after p _ (m + 2)).symm.trans hc)
    · -- the first line is one of the three
      have hone : i = p.blanks ∨ i + 1 = p.blanks ∨ i + 2 = p.blanks := by omega
      rcases hone with h | h | h
      · rw [h, hself] at ha
        exact Or.inl (Option.some.inj ha ▸ hp)
      · rw [h, hself] at hb
        exact Or.inr (Or.inl (Option.some.inj hb ▸ hp))
      · rw [h, hself] at hc
        exact Or.inr (Or.inr (Option.some.inj hc ▸ hp))

/-- The next line that is not blank comes after the blank lines that were placed before it. -/
theorem eq_blanks_of_next {p : Placed} {rest : List (List Char)} {i : Nat} {below : List Char} (hp : OneLine p.text)
    (hbelow : isBlankLine below = false) (hi : (p.lines ++ rest)[i]? = some below)
    (hbefore : ∀ k l, k < i → (p.lines ++ rest)[k]? = some l → isBlankLine l = true) : i = p.blanks ∧ below = p.line := by
  have hself := getElem?_self p rest
  rcases Nat.lt_trichotomy i p.blanks with hlt | heq | hgt
  · rw [getElem?_lines, if_pos hlt] at hi
    cases hi
    cases hbelow
  · rw [heq, hself] at hi
    exact ⟨heq, (Option.some.inj hi).symm⟩
  · have hblank := hbefore p.blanks p.line hgt hself
    rw [Placed.isBlankLine_line hp] at hblank
    cases hblank

theorem headersTight_of_placed (hlog : ∀ p ∈ log, OneLine p.text)
    (hchain : log.IsChain fun p q => p.level < q.level → q.blanks = 0) :
    HeadersTight (log.flatMap Placed.lines ++ [[]]) := by
  induction log with
  | nil =>
    intro i j above below hi hj hij
    have : j < 1 := (List.getElem?_eq_some_iff.mp hj).1
    omega
  | cons p rest ih =>
    have hp : OneLine p.text := hlog p List.mem_cons_self
    have hrest := ih (fun q hq => hlog q (List.mem_cons_of_mem _ hq)) hchain.tail
    intro i j above below hi hj hij habove hbelow hbetween hdeeper
    rw [List.flatMap_cons, List.append_assoc] at hi hj hbetween
    rcases Nat.lt_trichotomy i p.blanks with hlt | heq | hgt
    · rw [getElem?_lines, if_pos hlt] at hi
      cases hi
      cases habove
    · -- the line above is the first one, and the line below it the one after that
      obtain ⟨m, rfl⟩ : ∃ m, j = p.blanks + 1 + m := ⟨j - p.blanks - 1, by omega⟩
      have habove : p.line = above := by simpa [getElem?_lines, heq] using hi
      rw [getElem?_after] at hj
      cases rest with
      | nil =>
        obtain ⟨hm, hline⟩ := List.getElem?_eq_some_iff.mp hj
        obtain rfl : m = 0 := by simpa using hm
        cases hline
        cases hbelow
      | cons q more =>
        have hq : OneLine q.text := hlog q (by simp)
        rw [List.flatMap_cons, List.append_assoc] at hj hbetween
        obtain ⟨rfl, rfl⟩ := eq_blanks_of_next hq hbelow hj fun k l hk hl =>
          hbetween (p.blanks + 1 + k) l (by omega) (by omega) (by rw [getElem?_after]; exact hl)
        rw [← habove, Placed.indentOf_line hp, Placed.indentOf_line hq] at hdeeper
        have hzero : q.blanks = 0 := (List.isChain_cons_cons.mp hchain).1 (by omega)
        omega
    · -- both lines come after the first one
      obtain ⟨m, rfl⟩ : ∃ m, i = p.blanks + 1 + m := ⟨i - p.blanks - 1, by omega⟩
      obtain ⟨n, rfl⟩ : ∃ n, j = p.blanks + 1 + n := ⟨j - p.blanks - 1, by omega⟩
      rw [getElem?_after] at hi hj
      have := hrest m n above below hi hj (by omega) habove hbelow (fun k l hk hl hline =>
        hbetween (p.blanks + 1 + k) l (by omega) (by omega) (by rw [getElem?_after]; exact hline)) hdeeper
      omega

end

end TypedOperations.Layout
