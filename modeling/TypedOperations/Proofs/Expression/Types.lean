import TypedOperations.Declaration.TypeExpression
import TypedOperations.Proofs.Expression.Syntax
import TypedOperations.Proofs.Layout.Writer

/-!
# Reading types

Annotations and tags are read from the tokens of their text. An annotation is a dotted name, or one in brackets after `Optional`
or `List`; a tag is a call of a method of `OutputType`, on another tag or on a dotted name. What was written is read back
(`readAnnotated_text`, `readTag_text`), whatever names the types have.
-/

namespace TypedOperations.Expression

open Source

/-! ## Dotted names -/

/-- The text is a name, or names with points between them. -/
def isDotted (s : String) : Bool :=
  (s.toList.splitOn '.').all fun part => Text.isIdentifier (String.ofList part)

/-- Names with points between them. -/
def joined (first : String) (others : List String) : String :=
  String.ofList (first.toList ++ others.flatMap fun w => '.' :: w.toList)

/-- The pieces of names with points between them. -/
def dottedLexemes (first : String) (others : List String) : List Lexeme :=
  .word first :: others.flatMap fun w => [.mark '.', .word w]

/-- The text is made of these names. -/
structure HasParts (s first : String) (others : List String) : Prop where
  text : s = joined first others
  first : Text.isIdentifier first = true
  others : ∀ w ∈ others, Text.isIdentifier w = true

theorem isIdentifier_point_notMem {s : String} (hs : Text.isIdentifier s = true) : '.' ∉ s.toList := fun h =>
  absurd ((IsWord.of_isIdentifier hs).chars '.' h) (by decide)

theorem toList_joined (first : String) (others : List String) :
    (joined first others).toList = ['.'].intercalate ((first :: others).map String.toList) := by
  rw [joined, String.toList_ofList, List.map_cons, Writer.intercalate_singleton_cons, List.flatMap_map]

theorem isDotted_iff {s : String} : isDotted s = true ↔ ∃ first others, HasParts s first others := by
  constructor
  · intro h
    rw [isDotted, List.all_eq_true] at h
    have hjoin : ['.'].intercalate (s.toList.splitOn '.') = s.toList := List.intercalate_splitOn '.'
    match hparts : s.toList.splitOn '.' with
    | [] => exact absurd hparts (List.splitOn_ne_nil _ _)
    | p :: ps =>
      rw [hparts] at h hjoin
      refine ⟨String.ofList p, ps.map String.ofList, ?_, h p List.mem_cons_self, fun w hw => ?_⟩
      · rw [← String.toList_inj, toList_joined, ← hjoin]
        simp [Function.comp_def]
      · obtain ⟨part, hpart, rfl⟩ := List.mem_map.mp hw
        exact h part (List.mem_cons_of_mem p hpart)
  · rintro ⟨first, others, htext, hfirst, hothers⟩
    have hall : ∀ w ∈ first :: others, Text.isIdentifier w = true := List.forall_mem_cons.mpr ⟨hfirst, hothers⟩
    have hpoint : ∀ part ∈ (first :: others).map String.toList, '.' ∉ part := by
      intro part hpart
      obtain ⟨w, hw, rfl⟩ := List.mem_map.mp hpart
      exact isIdentifier_point_notMem (hall w hw)
    rw [isDotted, htext, toList_joined, List.splitOn_intercalate '.' hpoint (by simp), List.all_map, List.all_eq_true]
    simpa using hall

theorem isDotted_of_isIdentifier {s : String} (hs : Text.isIdentifier s = true) : isDotted s = true :=
  isDotted_iff.mpr ⟨s, [], by simp [joined], hs, by simp⟩

theorem isDotted_append {a b : String} (ha : isDotted a = true) (hb : isDotted b = true) : isDotted (a ++ "." ++ b) = true := by
  obtain ⟨first, others, rfl, hfirst, hothers⟩ := isDotted_iff.mp ha
  obtain ⟨first', others', rfl, hfirst', hothers'⟩ := isDotted_iff.mp hb
  refine isDotted_iff.mpr ⟨first, others ++ first' :: others', ?_, hfirst, fun w hw => ?_⟩
  · rw [← String.toList_inj]
    simp [joined]
  · rcases List.mem_append.mp hw with hw | hw
    · exact hothers w hw
    · rcases List.mem_cons.mp hw with rfl | hw
      · exact hfirst'
      · exact hothers' w hw

/-- No bracket stands in a dotted name. -/
theorem bracket_notMem_of_isDotted {s : String} (hs : isDotted s = true) : '[' ∉ s.toList := by
  obtain ⟨first, others, rfl, hfirst, hothers⟩ := isDotted_iff.mp hs
  have hword : ∀ {w}, Text.isIdentifier w = true → '[' ∉ w.toList := fun hw h =>
    absurd ((IsWord.of_isIdentifier hw).chars '[' h) (by decide)
  rw [joined, String.toList_ofList, List.mem_append, List.mem_flatMap]
  rintro (h | ⟨w, hw, h⟩)
  · exact hword hfirst h
  · rcases List.mem_cons.mp h with h | h
    · cases h
    · exact hword (hothers w hw) h

section
variable {s first : String} {others : List String}

theorem HasParts.chars (h : HasParts s first others) : (dottedLexemes first others).flatMap Lexeme.chars = s.toList := by
  rw [h.text, joined, String.toList_ofList, dottedLexemes, List.flatMap_cons, List.flatMap_assoc]
  simp [Lexeme.chars]

theorem HasParts.apart (h : HasParts s first others) {rest : List Lexeme} (hrest : Follows rest) :
    Apart (dottedLexemes first others ++ rest) := by
  have hfollows : Follows ((others.flatMap fun w => [.mark '.', .word w]) ++ rest) := by
    obtain ⟨-, -, hothers⟩ := h
    induction others with
    | nil => exact hrest
    | cons w more ih =>
      rw [List.flatMap_cons, List.append_assoc]
      exact (ih fun v hv => hothers v (List.mem_cons_of_mem w hv)).point (hothers w List.mem_cons_self)
  exact hfollows.word h.first

end

/-- The names after points, and what follows them. -/
def readParts : List Token → List String × List Token
  | .mark m :: .word w :: rest =>
    if m = "." then (w :: (readParts rest).1, (readParts rest).2) else ([], .mark m :: .word w :: rest)
  | rest => ([], rest)

/-- No dotted name goes on with the tokens, and no brackets open. -/
def EndsName (rest : List Token) : Prop :=
  ∀ m, rest.head? = some (.mark m) → m ≠ "." ∧ m ≠ "["

theorem readParts_end {rest : List Token} (hrest : EndsName rest) : readParts rest = ([], rest) := by
  fun_cases readParts rest with
  | case1 => exact absurd rfl (hrest "." rfl).1
  | case2 => rfl
  | case3 => rfl

theorem readParts_dotted (others : List String) {rest : List Token} (hrest : EndsName rest) :
    readParts ((others.flatMap fun w => [.mark '.', .word w]).filterMap Lexeme.token? ++ rest) = (others, rest) := by
  induction others with
  | nil => exact readParts_end hrest
  | cons w more ih => simp [Lexeme.token?, readParts, ih]

/-! ## What stands in brackets -/

/-- What was read, put together with the bracket that closes it. -/
def closed {β : Type} (close : String) (wrap : β → β) : Option (β × List Token) → Option (β × List Token)
  | some (e, .mark m :: rest) => if m = close then some (wrap e, rest) else none
  | _ => none

/-- A text of which a reader leaves nothing. -/
def readWhole {β : Type} (read : List Token → Option (β × List Token)) (text : String) : Option β :=
  match (lex (text.toList.length + 1) text.toList).bind read with
  | some (e, []) => some e
  | _ => none

@[simp] theorem closed_some {β : Type} (close : String) (wrap : β → β) (e : β) (rest : List Token) :
    closed close wrap (some (e, .mark close :: rest)) = some (wrap e, rest) :=
  if_pos rfl

theorem readWhole_of_apart {β : Type} {read : List Token → Option (β × List Token)} {ls : List Lexeme} {text : String} {e : β}
    (htext : ls.flatMap Lexeme.chars = text.toList) (hls : Apart ls) (hread : read (ls.filterMap Lexeme.token?) = some (e, [])) :
    readWhole read text = some e := by
  rw [readWhole, ← htext, lex_of_apart hls, Option.bind_some, hread]

theorem endsName_close {close : String} (hclose : close = "]" ∨ close = ")") (rest : List Token) :
    EndsName (.mark close :: rest) := by
  rintro m h
  cases h
  rcases hclose with rfl | rfl <;> decide

/-! ## Annotations -/

/-- The annotation that tokens start with, and what follows it. -/
def readAnnotated : List Token → Option (TypeExpression × List Token)
  | .word w :: .mark m :: rest =>
    if m = "[" then
      if w = "Optional" then closed "]" .optional (readAnnotated rest)
      else if w = "List" then closed "]" .list (readAnnotated rest)
      else none
    else
      let parts := readParts (.mark m :: rest)
      some (.name (joined w parts.1), parts.2)
  | .word w :: rest => some (.name w, rest)
  | _ => none

/-- The pieces of an annotation, with those of the name inside. -/
def annotationLexemes (name : List Lexeme) : TypeExpression → List Lexeme
  | .name _ => name
  | .optional inner => .word "Optional" :: .mark '[' :: (annotationLexemes name inner ++ [.mark ']'])
  | .list item => .word "List" :: .mark '[' :: (annotationLexemes name item ++ [.mark ']'])

theorem chars_annotationLexemes {name : List Lexeme} (e : TypeExpression) (hname : name.flatMap Lexeme.chars = e.base.toList) :
    (annotationLexemes name e).flatMap Lexeme.chars = e.text.toList := by
  induction e with
  | name _ => exact hname
  | optional inner ih => simp [annotationLexemes, TypeExpression.text, Lexeme.chars, ih hname]
  | list item ih => simp [annotationLexemes, TypeExpression.text, Lexeme.chars, ih hname]

section
variable {s first : String} {others : List String}

theorem HasParts.apart_annotation (h : HasParts s first others) (e : TypeExpression) :
    ∀ {rest : List Lexeme}, Follows rest → Apart (annotationLexemes (dottedLexemes first others) e ++ rest) := by
  induction e with
  | name _ => exact h.apart
  | optional inner ih =>
    intro rest hrest
    have hclose : Follows (.mark ']' :: rest) := .mark hrest.toApart (by decide) (by decide)
    have hopen := (Follows.mark (c := '[') (ih hclose) (by decide) (by decide)).word (s := "Optional") (by decide +kernel)
    simpa [annotationLexemes] using hopen
  | list item ih =>
    intro rest hrest
    have hclose : Follows (.mark ']' :: rest) := .mark hrest.toApart (by decide) (by decide)
    have hopen := (Follows.mark (c := '[') (ih hclose) (by decide) (by decide)).word (s := "List") (by decide +kernel)
    simpa [annotationLexemes] using hopen

/-- A dotted name is read to its end. -/
theorem readAnnotated_dotted (first : String) (others : List String) {rest : List Token} (hrest : EndsName rest) :
    readAnnotated ((dottedLexemes first others).filterMap Lexeme.token? ++ rest) = some (.name (joined first others), rest) := by
  have hparts := readParts_dotted others hrest
  cases others with
  | cons w more =>
    have hpoint : '.'.toString ≠ "[" := by decide
    rw [List.flatMap_cons] at hparts
    rw [dottedLexemes, List.flatMap_cons]
    simp only [List.cons_append, List.nil_append, List.filterMap_cons, Lexeme.token?] at hparts ⊢
    rw [readAnnotated, if_neg hpoint, hparts]
  | nil =>
    have hone : joined first [] = first := by simp [joined]
    rcases rest with - | ⟨t, more⟩
    · simp [dottedLexemes, Lexeme.token?, readAnnotated, hone]
    · cases t with
      | mark m =>
        have hopen : m ≠ "[" := (hrest m rfl).2
        simp [dottedLexemes, Lexeme.token?, readAnnotated, hone, hopen, readParts_end hrest]
      | _ => simp [dottedLexemes, Lexeme.token?, readAnnotated, hone]

theorem HasParts.readAnnotated (h : HasParts s first others) (e : TypeExpression) (hbase : e.base = s) :
    ∀ rest : List Token, EndsName rest →
      readAnnotated ((annotationLexemes (dottedLexemes first others) e).filterMap Lexeme.token? ++ rest) = some (e, rest) := by
  induction e with
  | name t =>
    intro rest hrest
    have hname : joined first others = t := h.text.symm.trans hbase.symm
    rw [annotationLexemes, readAnnotated_dotted first others hrest, hname]
  | optional inner ih =>
    intro rest hrest
    have hinner := ih hbase _ (endsName_close (Or.inl rfl) rest)
    simp [annotationLexemes, Lexeme.token?, Expression.readAnnotated, hinner]
  | list item ih =>
    intro rest hrest
    have hitem := ih hbase _ (endsName_close (Or.inl rfl) rest)
    simp [annotationLexemes, Lexeme.token?, Expression.readAnnotated, hitem]

end

/-- An annotation of a dotted name is read back. -/
theorem readAnnotated_text (e : TypeExpression) (hbase : isDotted e.base = true) : readWhole readAnnotated e.text = some e := by
  obtain ⟨first, others, h⟩ := isDotted_iff.mp hbase
  refine readWhole_of_apart (chars_annotationLexemes e h.chars) ?_ ?_
  · simpa using h.apart_annotation e .nil
  · simpa using h.readAnnotated e rfl [] fun m hm => nomatch hm

/-! ## Tags -/

/-- The name inside all layers of a tag. -/
def tagBase : OutputExpression → String
  | .scalar name => name
  | .object record => record
  | .list item => tagBase item
  | .nonNull inner => tagBase inner

/-- The tag of a scalar from its name, and what follows it. -/
def readScalar : List Token → Option (OutputExpression × List Token)
  | .word w :: rest => some (.scalar (joined w (readParts rest).1), (readParts rest).2)
  | _ => none

/-- The tag of an object from the call that gives its selections, and what follows it. -/
def readObject : List Token → Option (OutputExpression × List Token)
  | .word w :: rest =>
    let parts := readParts rest
    match parts.2 with
    | .mark m :: more =>
      if m = "(" ∧ parts.1.getLast? = some "selections" then
        closed ")" id (some (.object (joined w parts.1.dropLast), more))
      else none
    | _ => none
  | _ => none

/-- The tag that tokens start with, and what follows it. -/
def readTag : List Token → Option (OutputExpression × List Token)
  | .word c :: .mark point :: .word k :: .mark m :: rest =>
    if c = "OutputType" ∧ point = "." ∧ m = "(" then
      if k = "scalar" then closed ")" id (readScalar rest)
      else if k = "object" then closed ")" id (readObject rest)
      else if k = "list" then closed ")" .list (readTag rest)
      else if k = "non_null" then closed ")" .nonNull (readTag rest)
      else none
    else none
  | _ => none

/-- The pieces of a call of a method of `OutputType`. -/
def callLexemes (method : String) (argument : List Lexeme) : List Lexeme :=
  .word "OutputType" :: .mark '.' :: .word method :: .mark '(' :: (argument ++ [.mark ')'])

/-- The pieces of the call that gives the selections of a class. -/
def selectionsLexemes (name : List Lexeme) : List Lexeme :=
  name ++ [.mark '.', .word "selections", .mark '(', .mark ')']

/-- The pieces of a tag, with those of the name inside. -/
def tagLexemes (name : List Lexeme) : OutputExpression → List Lexeme
  | .scalar _ => callLexemes "scalar" name
  | .object _ => callLexemes "object" (selectionsLexemes name)
  | .list item => callLexemes "list" (tagLexemes name item)
  | .nonNull inner => callLexemes "non_null" (tagLexemes name inner)

theorem chars_callLexemes {head method text : String} {argument : List Lexeme} (hhead : head = "OutputType." ++ method ++ "(")
    (hargument : argument.flatMap Lexeme.chars = text.toList) :
    (callLexemes method argument).flatMap Lexeme.chars = (head ++ text ++ ")").toList := by
  have hclass : "OutputType.".toList = "OutputType".toList ++ ['.'] := by decide
  have hopen : "(".toList = ['('] := rfl
  have hclose : ")".toList = [')'] := rfl
  rw [hhead, callLexemes]
  simp only [String.toList_append, hclass, hopen, hclose, List.flatMap_cons, List.flatMap_append, List.flatMap_nil, Lexeme.chars,
    hargument, List.append_assoc, List.cons_append, List.nil_append, List.append_nil]

theorem chars_tagLexemes {name : List Lexeme} (e : OutputExpression) (hname : name.flatMap Lexeme.chars = (tagBase e).toList) :
    (tagLexemes name e).flatMap Lexeme.chars = e.text.toList := by
  induction e with
  | scalar n => exact chars_callLexemes (by decide) hname
  | object r =>
    have htext : (OutputExpression.object r).text = "OutputType.object(" ++ (r ++ ".selections()") ++ ")" := by
      have hsplit : (OutputExpression.object r).text = "OutputType.object(" ++ r ++ ".selections())" := rfl
      have hend : ".selections())" = ".selections()" ++ ")" := by decide
      rw [hsplit, hend]
      simp only [String.append_assoc]
    rw [htext]
    refine chars_callLexemes (by decide) ?_
    rw [selectionsLexemes, List.flatMap_append, hname, String.toList_append]
    rfl
  | list item ih => exact chars_callLexemes (by decide) (ih hname)
  | nonNull inner ih => exact chars_callLexemes (by decide) (ih hname)

theorem apart_callLexemes {method : String} {argument : List Lexeme} (hmethod : Text.isIdentifier method = true)
    (hargument : ∀ {rest}, Follows rest → Apart (argument ++ rest)) {rest : List Lexeme} (hrest : Follows rest) :
    Apart (callLexemes method argument ++ rest) := by
  have hclose : Follows (.mark ')' :: rest) := .mark hrest.toApart (by decide) (by decide)
  have hopen : Follows (.mark '(' :: (argument ++ .mark ')' :: rest)) := .mark (hargument hclose) (by decide) (by decide)
  have hcall := (hopen.point hmethod).word (s := "OutputType") (by decide +kernel)
  simpa [callLexemes] using hcall

section
variable {s first : String} {others : List String}

theorem HasParts.apart_tag (h : HasParts s first others) (e : OutputExpression) :
    ∀ {rest : List Lexeme}, Follows rest → Apart (tagLexemes (dottedLexemes first others) e ++ rest) := by
  induction e with
  | scalar n => exact apart_callLexemes (by decide +kernel) h.apart
  | object r =>
    refine apart_callLexemes (by decide +kernel) fun {rest} hrest => ?_
    have hclose : Follows (.mark ')' :: rest) := .mark hrest.toApart (by decide) (by decide)
    have hopen : Follows (.mark '(' :: .mark ')' :: rest) := .mark hclose.toApart (by decide) (by decide)
    have hall := h.apart (hopen.point (s := "selections") (by decide +kernel))
    simpa [selectionsLexemes] using hall
  | list item ih => exact apart_callLexemes (by decide +kernel) ih
  | nonNull inner ih => exact apart_callLexemes (by decide +kernel) ih

theorem readScalar_dotted (first : String) (others : List String) {rest : List Token} (hrest : EndsName rest) :
    readScalar ((dottedLexemes first others).filterMap Lexeme.token? ++ rest) = some (.scalar (joined first others), rest) := by
  simp [dottedLexemes, Lexeme.token?, readScalar, readParts_dotted others hrest]

theorem readObject_dotted (first : String) (others : List String) (rest : List Token) :
    readObject ((selectionsLexemes (dottedLexemes first others)).filterMap Lexeme.token? ++ rest) =
      some (.object (joined first others), rest) := by
  have hends : EndsName (.mark "(" :: .mark ")" :: rest) := by
    rintro m h
    cases h
    decide
  have hparts := readParts_dotted (others ++ ["selections"]) hends
  have htokens : (selectionsLexemes (dottedLexemes first others)).filterMap Lexeme.token? ++ rest =
      .word first :: (((others ++ ["selections"]).flatMap fun w => [Lexeme.mark '.', .word w]).filterMap Lexeme.token? ++
        .mark "(" :: .mark ")" :: rest) := by
    simp [selectionsLexemes, dottedLexemes, Lexeme.token?]
  rw [htokens, readObject, hparts]
  simp

theorem HasParts.readTag (h : HasParts s first others) (e : OutputExpression) (hbase : tagBase e = s) :
    ∀ rest : List Token,
      readTag ((tagLexemes (dottedLexemes first others) e).filterMap Lexeme.token? ++ rest) = some (e, rest) := by
  induction e with
  | scalar n =>
    intro rest
    have hname : joined first others = n := h.text.symm.trans hbase.symm
    have hscalar := readScalar_dotted first others (endsName_close (Or.inr rfl) rest)
    simp [tagLexemes, callLexemes, Lexeme.token?, Expression.readTag, hscalar, hname]
  | object r =>
    intro rest
    have hname : joined first others = r := h.text.symm.trans hbase.symm
    have hobject := readObject_dotted first others (.mark ")" :: rest)
    simp [tagLexemes, callLexemes, Lexeme.token?, Expression.readTag, hobject, hname]
  | list item ih =>
    intro rest
    have hitem := ih hbase (.mark ")" :: rest)
    simp [tagLexemes, callLexemes, Lexeme.token?, Expression.readTag, hitem]
  | nonNull inner ih =>
    intro rest
    have hinner := ih hbase (.mark ")" :: rest)
    simp [tagLexemes, callLexemes, Lexeme.token?, Expression.readTag, hinner]

end

/-- A tag of a dotted name is read back. -/
theorem readTag_text (e : OutputExpression) (hbase : isDotted (tagBase e) = true) : readWhole readTag e.text = some e := by
  obtain ⟨first, others, h⟩ := isDotted_iff.mp hbase
  refine readWhole_of_apart (chars_tagLexemes e h.chars) ?_ ?_
  · simpa using h.apart_tag e .nil
  · simpa using h.readTag e rfl []

end TypedOperations.Expression
