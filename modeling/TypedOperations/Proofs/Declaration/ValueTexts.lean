import TypedOperations.Declaration.ValueExpression
import TypedOperations.Proofs.Expression.Literals
import TypedOperations.Proofs.Outcome

/-!
# Argument values in generated texts

The expression of a value is made of pieces that are kept apart, and running their atoms gives the value, whatever was begun
before and whatever follows. So an argument value of plain data and variables is read back from its expression, and different
values have different expressions.
-/

namespace TypedOperations.Literal

open Source Value

/-! ## Values that have literals -/

mutual

/-- The value is plain data or a variable, with numbers that are not too long and without null characters, and no key comes
twice. -/
def isLiteral : Value → Bool
  | .null => true
  | .bool _ => true
  | .int i => decide ((Nat.toDigits 10 i.natAbs).length ≤ Decimal.maxDigits)
  | .string s => !s.toList.contains '\x00'
  | .var name => !name.toList.contains '\x00'
  | .list items => areLiteral items
  | .keyed entries => decide (entries.map Prod.fst).Nodup && entriesLiteral entries
  | _ => false

/-- The values are literals. -/
def areLiteral : List Value → Bool
  | [] => true
  | v :: rest => isLiteral v && areLiteral rest

/-- The values of the entries are literals, and their keys have no null characters. -/
def entriesLiteral : List (String × Value) → Bool
  | [] => true
  | (k, v) :: rest => !k.toList.contains '\x00' && isLiteral v && entriesLiteral rest

end

/-! ## Pieces of values -/

mutual

/-- The pieces of a value. -/
def pieces : Value → List Lexeme
  | .null => [.word "None"]
  | .bool b => [.word (if b then "True" else "False")]
  | .int i => if i < 0 then [.mark '-', .number i.natAbs] else [.number i.natAbs]
  | .string s => [.text s]
  | .var name => [.word "GraphQLVariable", .mark '(', .text name, .mark ')']
  | .list items => .mark '[' :: (itemPieces items ++ [.mark ']'])
  | .keyed entries => .mark '\x7b' :: (entryPieces entries ++ [.mark '\x7d'])
  | _ => []

/-- The pieces of items with commas between them. -/
def itemPieces : List Value → List Lexeme
  | [] => []
  | v :: rest => pieces v ++ laterItems rest

/-- The pieces of items after others. -/
def laterItems : List Value → List Lexeme
  | [] => []
  | v :: rest => .mark ',' :: .space :: (pieces v ++ laterItems rest)

/-- The pieces of entries with commas between them. -/
def entryPieces : List (String × Value) → List Lexeme
  | [] => []
  | (k, v) :: rest => .text k :: .mark ':' :: .space :: (pieces v ++ laterEntries rest)

/-- The pieces of entries after others. -/
def laterEntries : List (String × Value) → List Lexeme
  | [] => []
  | (k, v) :: rest => .mark ',' :: .space :: .text k :: .mark ':' :: .space :: (pieces v ++ laterEntries rest)

end

/-! ## The expression is that of the pieces -/

theorem toList_commas (t : String) (ts : List String) :
    (String.intercalate ", " (t :: ts)).toList = t.toList ++ ts.flatMap fun u => ',' :: ' ' :: u.toList := by
  induction ts generalizing t with
  | nil => simp
  | cons u more ih =>
    rw [String.intercalate_cons_cons, String.toList_append, String.toList_append, ih, List.flatMap_cons]
    simp

theorem toList_int (i : Int) :
    (toString i).toList = if i < 0 then '-' :: Nat.toDigits 10 i.natAbs else Nat.toDigits 10 i.natAbs := by
  have hnat : ∀ n : Nat, (toString n).toList = Nat.toDigits 10 n := fun n => by
    rw [Nat.toString_eq_ofList_toDigits, String.toList_ofList]
  cases i with
  | ofNat n =>
    have hpos : ¬Int.ofNat n < 0 := Int.not_lt.mpr (Int.natCast_nonneg n)
    rw [if_neg hpos]
    exact hnat n
  | negSucc n =>
    rw [if_pos (Int.negSucc_lt_zero n)]
    have hminus : toString (Int.negSucc n) = "-" ++ toString (n + 1) := rfl
    rw [hminus, String.toList_append, hnat]
    rfl

mutual

/-- A literal has an expression, which has the characters of its pieces. -/
theorem exists_expression : ∀ v : Value, isLiteral v = true →
    ∃ t, v.expression = .ok t ∧ t.toList = (pieces v).flatMap Lexeme.chars
  | .null, _ => ⟨_, rfl, by simp [pieces, Lexeme.chars]⟩
  | .bool b, _ => ⟨_, rfl, by simp [pieces, Lexeme.chars]⟩
  | .int i, _ => ⟨_, rfl, by rw [toList_int, pieces]; split <;> simp [Lexeme.chars]⟩
  | .string s, _ => ⟨_, rfl, by simp [pieces, Lexeme.chars, stringLiteral]⟩
  | .var name, _ => ⟨_, rfl, by simp [pieces, Lexeme.chars, stringLiteral]⟩
  | .list [], _ => ⟨_, rfl, by simp [pieces, itemPieces, Lexeme.chars]⟩
  | .list (v :: rest), h => by
    rw [isLiteral, areLiteral, Bool.and_eq_true] at h
    obtain ⟨t, ht, hchars⟩ := exists_expression v h.1
    obtain ⟨ts, hts, hlater⟩ := exists_expressions rest h.2
    refine ⟨_, bind_eq_ok.mpr ⟨t :: ts, bind_eq_ok.mpr ⟨t, ht, bind_eq_ok.mpr ⟨ts, hts, rfl⟩⟩, rfl⟩, ?_⟩
    rw [String.toList_append, String.toList_append, toList_commas, hchars, hlater]
    simp [pieces, itemPieces, Lexeme.chars]
  | .keyed [], _ => ⟨_, rfl, by simp [pieces, entryPieces, Lexeme.chars, keyedText]⟩
  | .keyed ((k, v) :: rest), h => by
    rw [isLiteral, entriesLiteral, Bool.and_eq_true, Bool.and_eq_true, Bool.and_eq_true] at h
    obtain ⟨t, ht, hchars⟩ := exists_expression v h.2.1.2
    obtain ⟨ts, hts, hlater⟩ := exists_entryExpressions rest h.2.2
    refine ⟨_, bind_eq_ok.mpr ⟨_ :: ts, bind_eq_ok.mpr ⟨t, ht, bind_eq_ok.mpr ⟨ts, hts, rfl⟩⟩, rfl⟩, ?_⟩
    rw [keyedText, String.toList_append, String.toList_append, toList_commas, String.toList_append, hchars, hlater]
    simp [pieces, entryPieces, Lexeme.chars, stringLiteral]

theorem exists_expressions : ∀ items : List Value, areLiteral items = true →
    ∃ ts, expressions items = .ok ts ∧ (ts.flatMap fun t => ',' :: ' ' :: t.toList) = (laterItems items).flatMap Lexeme.chars
  | [], _ => ⟨[], rfl, rfl⟩
  | v :: rest, h => by
    rw [areLiteral, Bool.and_eq_true] at h
    obtain ⟨t, ht, hchars⟩ := exists_expression v h.1
    obtain ⟨ts, hts, hlater⟩ := exists_expressions rest h.2
    refine ⟨t :: ts, bind_eq_ok.mpr ⟨t, ht, bind_eq_ok.mpr ⟨ts, hts, rfl⟩⟩, ?_⟩
    simp [hchars, hlater, laterItems, Lexeme.chars]

theorem exists_entryExpressions : ∀ entries : List (String × Value), entriesLiteral entries = true →
    ∃ ts, entryExpressions entries = .ok ts ∧
      (ts.flatMap fun t => ',' :: ' ' :: t.toList) = (laterEntries entries).flatMap Lexeme.chars
  | [], _ => ⟨[], rfl, rfl⟩
  | (k, v) :: rest, h => by
    rw [entriesLiteral, Bool.and_eq_true, Bool.and_eq_true] at h
    obtain ⟨t, ht, hchars⟩ := exists_expression v h.1.2
    obtain ⟨ts, hts, hlater⟩ := exists_entryExpressions rest h.2
    refine ⟨_ :: ts, bind_eq_ok.mpr ⟨t, ht, bind_eq_ok.mpr ⟨ts, hts, rfl⟩⟩, ?_⟩
    simp [hchars, hlater, laterEntries, Lexeme.chars, stringLiteral]

end

/-! ## The pieces are kept apart -/

/-- Lexemes that may follow a value, which may be a number. -/
structure Closes (ls : List Lexeme) : Prop extends Follows ls where
  point : ls.head? ≠ some (.mark '.')

section
variable {ls : List Lexeme}

theorem Closes.nil : Closes [] := ⟨.nil, by simp⟩

theorem Closes.mark {c : Char} (hls : Apart ls) (hc : c ∈ partMarks ∧ c ≠ '.') : Closes (.mark c :: ls) :=
  ⟨.mark hls hc.1 hc.2, by simpa using hc.2⟩

/-- Words, numbers and strings may come before what may follow a value. -/
theorem Closes.cons {l : Lexeme} (hls : Closes ls) (hl : l.Fits) (hother : l.isSeparator = false) : Apart (l :: ls) := by
  refine hls.toFollows.cons hl ?_ fun _ _ => hls.point
  rintro rfl
  cases hother

end

theorem notMem_of_contains {s : String} (h : (!s.toList.contains '\x00') = true) : '\x00' ∉ s.toList := by
  simpa using h

mutual

/-- The pieces of a literal are kept apart from each other and from what follows. -/
theorem apart_pieces {rest : List Lexeme} (hrest : Closes rest) : ∀ v : Value, isLiteral v = true → Apart (pieces v ++ rest)
  | .null, _ => hrest.cons (IsWord.of_isIdentifier (by decide +kernel)) rfl
  | .bool b, _ => hrest.cons (IsWord.of_isIdentifier (by cases b <;> decide +kernel)) rfl
  | .int i, h => by
    rw [isLiteral, decide_eq_true_eq] at h
    have hnumber : Apart (.number i.natAbs :: rest) := hrest.cons h rfl
    rw [pieces]
    split
    · exact (Closes.mark hnumber (by decide)).toApart
    · exact hnumber
  | .string s, h => hrest.cons (notMem_of_contains h) rfl
  | .var name, h => by
    have hname : Apart (.text name :: .mark ')' :: rest) :=
      (Closes.mark hrest.toApart (by decide)).cons (notMem_of_contains h) rfl
    exact (Closes.mark hname (by decide)).cons (IsWord.of_isIdentifier (by decide +kernel)) rfl
  | .list [], _ => (Closes.mark (Closes.mark hrest.toApart (by decide)).toApart (by decide)).toApart
  | .list (v :: others), h => by
    rw [isLiteral, areLiteral, Bool.and_eq_true] at h
    -- the first item is followed by a comma or by the end of the list, either of which is a mark
    have hclose : Closes (.mark ']' :: rest) := .mark hrest.toApart (by decide)
    have hitems := apart_pieces (follows_laterItems hclose others h.2) v h.1
    simpa [pieces, itemPieces] using (Closes.mark (c := '[') hitems (by decide)).toApart
  | .keyed [], _ => (Closes.mark (Closes.mark hrest.toApart (by decide)).toApart (by decide)).toApart
  | .keyed ((k, v) :: others), h => by
    rw [isLiteral, entriesLiteral, Bool.and_eq_true, Bool.and_eq_true, Bool.and_eq_true] at h
    have hclose : Closes (.mark '\x7d' :: rest) := .mark hrest.toApart (by decide)
    have hvalue := apart_pieces (follows_laterEntries hclose others h.2.2) v h.2.1.2
    have hkey : Apart (.text k :: .mark ':' :: .space :: (pieces v ++ (laterEntries others ++ .mark '\x7d' :: rest))) :=
      (Closes.mark (Follows.space hvalue).toApart (by decide)).cons (notMem_of_contains h.2.1.1) rfl
    simpa [pieces, entryPieces] using (Closes.mark (c := '\x7b') hkey (by decide)).toApart

theorem follows_laterItems {rest : List Lexeme} (hrest : Closes rest) :
    ∀ items : List Value, areLiteral items = true → Closes (laterItems items ++ rest)
  | [], _ => hrest
  | v :: others, h => by
    rw [areLiteral, Bool.and_eq_true] at h
    have hvalue := apart_pieces (follows_laterItems hrest others h.2) v h.1
    simpa [laterItems] using Closes.mark (c := ',') (Follows.space hvalue).toApart (by decide)

theorem follows_laterEntries {rest : List Lexeme} (hrest : Closes rest) :
    ∀ entries : List (String × Value), entriesLiteral entries = true → Closes (laterEntries entries ++ rest)
  | [], _ => hrest
  | (k, v) :: others, h => by
    rw [entriesLiteral, Bool.and_eq_true, Bool.and_eq_true] at h
    have hvalue := apart_pieces (follows_laterEntries hrest others h.2) v h.1.2
    have hkey : Apart (.text k :: .mark ':' :: .space :: (pieces v ++ (laterEntries others ++ rest))) :=
      (Closes.mark (Follows.space hvalue).toApart (by decide)).cons (notMem_of_contains h.1.1) rfl
    simpa [laterEntries] using Closes.mark (c := ',') (Follows.space hkey).toApart (by decide)

end

/-! ## Running the atoms of a value -/

theorem notMem_of_nodup {names more : List String} {k : String} (h : (names ++ k :: more).Nodup) : k ∉ names :=
  fun hk => (List.nodup_append.mp h).2.2 k hk k List.mem_cons_self rfl

mutual

/-- Where a value is awaited, the atoms of a literal give it, and what follows comes after it. -/
theorem run_pieces (frames : List Frame) (rest : List Atom) : ∀ v : Value, isLiteral v = true →
    Reading.run ⟨frames, .value⟩ ((pieces v).filterMap atom? ++ rest) = Reading.run ⟨frames, .more v⟩ rest
  | .null, _ => rfl
  | .bool b, _ => by cases b <;> rfl
  | .int i, _ => by
    rw [pieces]
    split
    next hneg =>
      have hvalue : -(i.natAbs : Int) = i := by omega
      calc Reading.run ⟨frames, .value⟩ (.mark "-" :: .number i.natAbs :: rest)
          = Reading.run ⟨frames, .more (.int (-i.natAbs))⟩ rest := rfl
        _ = Reading.run ⟨frames, .more (.int i)⟩ rest := by rw [hvalue]
    next hpos =>
      have hvalue : (i.natAbs : Int) = i := by omega
      calc Reading.run ⟨frames, .value⟩ (.number i.natAbs :: rest)
          = Reading.run ⟨frames, .more (.int i.natAbs)⟩ rest := rfl
        _ = Reading.run ⟨frames, .more (.int i)⟩ rest := by rw [hvalue]
  | .string _, _ => rfl
  | .var _, _ => rfl
  | .list [], _ => rfl
  | .list (v :: others), h => by
    rw [isLiteral, areLiteral, Bool.and_eq_true] at h
    have hatoms : (pieces (.list (v :: others))).filterMap atom? ++ rest =
        .mark "[" :: ((pieces v).filterMap atom? ++ ((laterItems others).filterMap atom? ++ .mark "]" :: rest)) := by
      simp [pieces, itemPieces, atom?]
    rw [hatoms, Reading.run_cons rfl, run_pieces _ _ v h.1, run_laterItems frames [] v rest others h.2]
    rfl
  | .keyed [], _ => rfl
  | .keyed ((k, v) :: others), h => by
    rw [isLiteral, entriesLiteral, Bool.and_eq_true, Bool.and_eq_true, Bool.and_eq_true, decide_eq_true_eq] at h
    have hatoms : (pieces (.keyed ((k, v) :: others))).filterMap atom? ++ rest =
        .mark "\x7b" :: .text k :: .mark ":" :: ((pieces v).filterMap atom? ++
          ((laterEntries others).filterMap atom? ++ .mark "\x7d" :: rest)) := by
      simp [pieces, entryPieces, atom?, List.filterMap_cons]
    rw [hatoms, Reading.run_cons rfl, Reading.run_cons rfl, Reading.run_cons rfl, run_pieces _ _ v h.2.1.2,
      run_laterEntries frames [] k v rest others h.1 h.2.2]
    rfl

/-- In a list that was begun, the items after the first one are read to the end of the list. -/
theorem run_laterItems (frames : List Frame) (before : List Value) (v : Value) (rest : List Atom) :
    ∀ items : List Value, areLiteral items = true →
      Reading.run ⟨.items before :: frames, .more v⟩ ((laterItems items).filterMap atom? ++ .mark "]" :: rest) =
        Reading.run ⟨frames, .more (.list (before.reverse ++ v :: items))⟩ rest
  | [], _ => by
    rw [← List.reverse_cons]
    exact Reading.run_cons rfl
  | w :: others, h => by
    rw [areLiteral, Bool.and_eq_true] at h
    have hatoms : (laterItems (w :: others)).filterMap atom? ++ .mark "]" :: rest =
        .mark "," :: ((pieces w).filterMap atom? ++ ((laterItems others).filterMap atom? ++ .mark "]" :: rest)) := by
      simp [laterItems, atom?, List.filterMap_cons]
    rw [hatoms, Reading.run_cons rfl, run_pieces _ _ w h.1, run_laterItems frames (v :: before) w rest others h.2]
    simp

/-- In a dictionary that was begun, the entries after the first one are read to its end. -/
theorem run_laterEntries (frames : List Frame) (before : Entries Value) (k : String) (v : Value) (rest : List Atom) :
    ∀ entries : Entries Value, (before.names ++ k :: entries.names).Nodup → entriesLiteral entries = true →
      Reading.run ⟨.entry before k :: frames, .more v⟩ ((laterEntries entries).filterMap atom? ++ .mark "\x7d" :: rest) =
        Reading.run ⟨frames, .more (.keyed (before ++ (k, v) :: entries))⟩ rest
  | [], hnodup, _ => by
    rw [← Entries.put_of_notMem (notMem_of_nodup hnodup)]
    exact Reading.run_cons rfl
  | (l, w) :: others, hnodup, h => by
    rw [entriesLiteral, Bool.and_eq_true, Bool.and_eq_true] at h
    have hatoms : (laterEntries ((l, w) :: others)).filterMap atom? ++ .mark "\x7d" :: rest =
        .mark "," :: .text l :: .mark ":" :: ((pieces w).filterMap atom? ++
          ((laterEntries others).filterMap atom? ++ .mark "\x7d" :: rest)) := by
      simp [laterEntries, atom?, List.filterMap_cons]
    -- a key that was not there is put last, so the entries keep their order
    have hput : before.put k v = before ++ [(k, v)] := Entries.put_of_notMem (notMem_of_nodup hnodup)
    have hnames : ((before.put k v).names ++ l :: Entries.names others).Nodup := by
      simpa [hput, Entries.names] using hnodup
    rw [hatoms, Reading.run_cons rfl, Reading.run_cons rfl, Reading.run_cons rfl, run_pieces _ _ w h.1.2,
      run_laterEntries frames (before.put k v) l w rest others hnames h.2, hput]
    simp

end

/-- A literal is read back from its expression. -/
theorem exists_read_expression {v : Value} (h : isLiteral v = true) : ∃ text, v.expression = .ok text ∧ read text = some v := by
  obtain ⟨text, htext, hchars⟩ := exists_expression v h
  have hapart := apart_pieces .nil v h
  have hrun := run_pieces [] [] v h
  rw [List.append_nil] at hapart hrun
  exact ⟨text, htext, read_of_apart hchars.symm hapart hrun⟩

theorem entriesLiteral_map {args : List Argument} (h : ∀ a ∈ args, '\x00' ∉ a.name.toList ∧ isLiteral a.value = true) :
    entriesLiteral (args.map fun a => (a.name, a.value)) = true := by
  induction args with
  | nil => rfl
  | cons a rest ih =>
    obtain ⟨⟨hname, hvalue⟩, hrest⟩ := List.forall_mem_cons.mp h
    rw [List.map_cons, entriesLiteral, hvalue, ih hrest]
    simpa using hname

/-- The arguments of a field make a literal. -/
theorem isLiteral_arguments {args : List Argument} (hnames : (args.map (·.name)).Nodup)
    (hargs : ∀ a ∈ args, '\x00' ∉ a.name.toList ∧ isLiteral a.value = true) :
    isLiteral (.keyed (args.map fun a => (a.name, a.value))) = true := by
  rw [isLiteral, entriesLiteral_map hargs, Bool.and_true, decide_eq_true_eq, List.map_map]
  exact hnames

/-- Values of plain data and variables are read back from their expressions, so different ones have different expressions; the
arguments of a field are read back from theirs, in order. -/
theorem argument_expressions_read_back :
    (∀ v : Value, isLiteral v = true → ∃ text, v.expression = .ok text ∧ read text = some v) ∧
    (∀ args : List Argument, (args.map (·.name)).Nodup →
      (∀ a ∈ args, '\x00' ∉ a.name.toList ∧ isLiteral a.value = true) →
      ∃ text, argumentsExpression args = .ok text ∧ read text = some (.keyed (args.map fun a => (a.name, a.value)))) ∧
    (∀ v w : Value, isLiteral v = true → isLiteral w = true → v.expression = w.expression → v = w) := by
  refine ⟨fun v => exists_read_expression, fun args hnames hargs => ?_, fun v w hv hw heq => ?_⟩
  · exact exists_read_expression (isLiteral_arguments hnames hargs)
  · obtain ⟨text, htext, hread⟩ := exists_read_expression hv
    obtain ⟨text', htext', hread'⟩ := exists_read_expression hw
    rw [heq, htext'] at htext
    cases htext
    exact Option.some.inj (hread.symm.trans hread')

/-- Arguments with the marks of other expressions inside their strings. -/
def nestedArguments : List Argument :=
  [⟨"filter", .keyed [("a\": [", .list [.string "GraphQLVariable(\"x\")", .var "x", .string "]\\", .list [], .keyed []]),
      ("", .null)]⟩,
    ⟨"first", .int (-10)⟩, ⟨"one", .int 1⟩, ⟨"flag", .bool true⟩, ⟨"none", .string "None"⟩]

theorem argument_expressions_read_back_nested :
    (∃ text, argumentsExpression nestedArguments = .ok text ∧
      read text = some (.keyed (nestedArguments.map fun a => (a.name, a.value)))) ∧
    (∃ text, Value.expression (.list [.string "1", .int 1]) = .ok text ∧ read text = some (.list [.string "1", .int 1])) ∧
    Value.expression (.var "x") ≠ Value.expression (.string "x") := by
  obtain ⟨hvalues, hargs, hdistinct⟩ := argument_expressions_read_back
  refine ⟨hargs nestedArguments (by decide) (by decide +kernel), hvalues _ (by decide +kernel), fun h => ?_⟩
  cases hdistinct _ _ (by decide +kernel) (by decide +kernel) h

end TypedOperations.Literal
