import TypedOperations.Layout.Writer

/-!
# What a line adds

A line that is written leaves the text before it as it is, and adds to it the line ends that are due, the indentation and its
own text. It leaves the level as it is, and nothing is owed after it.
-/

namespace TypedOperations.Writer

variable (w : Writer) {text : String}

/-- The line ends between the text so far and the next line. -/
def gap (w : Writer) : String :=
  if w.pieces.isEmpty then "" else repeated "\n" (1 + w.owed)

/-- The blanks before a line. -/
def indentation (w : Writer) : String :=
  repeated indentUnit w.level

theorem toList_repeated (s : String) (n : Nat) : (repeated s n).toList = (List.replicate n s.toList).flatten := by
  induction n with
  | zero => rfl
  | succ n ih => rw [repeated, String.toList_append, ih, List.replicate_succ', List.flatten_append, List.flatten_singleton]

/-- The indentation of a level is four blanks for each level around it. -/
theorem toList_indentation : w.indentation.toList = List.replicate (4 * w.level) ' ' := by
  have hunit : indentUnit.toList = List.replicate 4 ' ' := rfl
  rw [indentation, toList_repeated, hunit, List.flatten_replicate_replicate, Nat.mul_comm]

theorem toList_repeated_lineEnd (n : Nat) : (repeated "\n" n).toList = List.replicate n '\n' := by
  have hunit : "\n".toList = List.replicate 1 '\n' := rfl
  rw [toList_repeated, hunit, List.flatten_replicate_replicate, Nat.mul_one]

/-- A line that is not empty, written out. -/
theorem line_eq (htext : text ≠ "") :
    w.line text =
      { (if w.pieces.isEmpty then w else w.push w.gap).push (w.indentation ++ text) with owed := 0, atLevelStart := false } := by
  rw [line, if_neg (by simpa using htext)]
  cases hw : w.pieces <;> simp [gap, hw, indentation]

/-- The text after a line is the text before it, what is due between them, and the line. -/
theorem body_line (htext : text ≠ "") : (w.line text).body = w.body ++ (w.gap ++ (w.indentation ++ text)) := by
  rw [line_eq w htext]
  cases hw : w.pieces <;> simp [body, push, hw, gap, String.join_append, String.append_assoc]

theorem level_line : (w.line text).level = w.level := by
  by_cases htext : text = ""
  · simp [line, htext]
  · rw [line_eq w htext]
    split <;> rfl

theorem owed_line (htext : text ≠ "") : (w.line text).owed = 0 := by
  rw [line_eq w htext]

theorem pieces_line (htext : text ≠ "") : (w.line text).pieces ≠ [] := by
  rw [line_eq w htext]
  exact List.cons_ne_nil _ _

theorem size_lt_line (htext : text ≠ "") : w.size < (w.line text).size := by
  rw [line_eq w htext]
  split <;> simp only [size, push, List.length_cons] <;> omega

/-! ## Lines one after another -/

/-- Parts after other parts are joined like them, with the separator between. -/
theorem intercalate_append {α : Type} (sep : List α) {xs ys : List (List α)} (hxs : xs ≠ []) (hys : ys ≠ []) :
    sep.intercalate (xs ++ ys) = sep.intercalate xs ++ (sep ++ sep.intercalate ys) := by
  induction xs with
  | nil => exact absurd rfl hxs
  | cons x rest ih =>
    cases rest with
    | nil => rw [List.singleton_append, List.intercalate_cons_of_ne_nil hys, List.intercalate_singleton, List.append_assoc]
    | cons y more =>
      have hmore : y :: more ≠ [] := List.cons_ne_nil _ _
      rw [List.cons_append, List.intercalate_cons_of_ne_nil (by simp), ih hmore, List.intercalate_cons_of_ne_nil hmore]
      simp only [List.append_assoc]

theorem intercalate_singleton_cons {α : Type} (sep : α) (first : List α) (others : List (List α)) :
    [sep].intercalate (first :: others) = first ++ others.flatMap (sep :: ·) := by
  induction others generalizing first with
  | nil => simp
  | cons x more ih =>
    rw [List.intercalate_cons_of_ne_nil (List.cons_ne_nil x more), ih, List.flatMap_cons]
    simp

/-- The text after lines is the text before them, what is due between them, and the lines, each after the indentation. -/
theorem body_lines {texts : List String} (hne : texts ≠ []) (htexts : ∀ t ∈ texts, t ≠ "") :
    (w.lines texts).body = w.body ++ (w.gap ++ "\n".intercalate (texts.map (w.indentation ++ ·))) := by
  induction texts generalizing w with
  | nil => exact absurd rfl hne
  | cons t rest ih =>
    have ht : t ≠ "" := htexts t List.mem_cons_self
    cases rest with
    | nil => exact body_line w ht
    | cons u more =>
      have hgap : (w.line t).gap = "\n" := by
        rw [gap, owed_line w ht]
        simp [pieces_line w ht, repeated]
      have hindent : (w.line t).indentation = w.indentation := by rw [indentation, level_line, indentation]
      have hrest := ih (w.line t) (List.cons_ne_nil _ _) fun t' ht' => htexts t' (List.mem_cons_of_mem _ ht')
      rw [hgap, hindent, body_line w ht] at hrest
      rw [lines, List.foldl_cons]
      refine hrest.trans ?_
      rw [List.map_cons, List.map_cons, List.map_cons, String.intercalate_cons_cons]
      simp only [String.append_assoc]

end TypedOperations.Writer
