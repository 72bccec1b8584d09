import TypedOperations.Proofs.Expression.Syntax

/-!
# Reading expressions

Tokens are read one after another into an expression, with a stack of what was begun. Attributes and calls bind closest, then
the test for identity, then the conditional expression, whose last part goes on as far as it can; a comprehension takes any
expression as its body, and one without a condition as its source. An expression that was written is read back, with the name
in its holes (`readText_text`).
-/

namespace TypedOperations.Expression

open Source

/-! ## The reader -/

/-- What was begun and waits for an expression. -/
inductive Frame where
  | group
  /-- A call, with the arguments read, newest first. -/
  | argument (f : Expr) (before : List Expr)
  /-- A comprehension before its body. -/
  | element
  /-- A comprehension before its source. -/
  | source (body : Expr) (item : Name)
  /-- The left side of a test for identity. -/
  | identity (a : Expr)
  /-- A conditional expression before its test. -/
  | test (yes : Expr)
  /-- A conditional expression before its last part. -/
  | otherwise (yes test : Expr)

/-- What is read next. -/
inductive Awaited where
  | operand
  /-- What follows a primary expression. -/
  | more (e : Expr)
  | attribute (e : Expr)
  /-- The name that a comprehension gives to items. -/
  | item (body : Expr)
  /-- The word before the source of a comprehension. -/
  | member (body : Expr) (item : Name)

/-- A state of reading; what was begun last comes first. -/
structure Reading where
  frames : List Frame := []
  awaited : Awaited := .operand

/-- The word as a name. -/
def name? (w : String) : Option Name :=
  if h : Text.isDeclarable w = true then some ⟨w, h⟩ else none

/-- A primary expression ends an operand: a test for identity is complete. -/
def endOperand (e : Expr) : List Frame → Expr × List Frame
  | .identity a :: rest => (.same a e, rest)
  | frames => (e, frames)

/-- An operand ends all conditional expressions that it is the last part of. -/
def endChoices (e : Expr) : List Frame → Expr × List Frame
  | .otherwise yes test :: rest => endChoices (.choice yes test e) rest
  | frames => (e, frames)

/-- A primary expression ends a whole expression. -/
def endExpression (e : Expr) (frames : List Frame) : Expr × List Frame :=
  endChoices (endOperand e frames).1 (endOperand e frames).2

namespace Reading

/-- A token where an operand is awaited. -/
def operand (frames : List Frame) : Token → Option Reading
  | .word w => if w == "None" then some ⟨frames, .more .nothing⟩ else (name? w).map fun n => ⟨frames, .more (.name n)⟩
  | .mark m =>
    if m == "(" then some ⟨.group :: frames, .operand⟩
    else if m == "[" then some ⟨.element :: frames, .operand⟩
    else if m == ")" then
      match frames with
      | .argument f [] :: rest => some ⟨rest, .more (.call f [])⟩
      | _ => none
    else none
  | _ => none

/-- A word after a primary expression. -/
def word (e : Expr) (frames : List Frame) (w : String) : Option Reading :=
  if w == "is" then
    match frames with
    | .identity _ :: _ => none
    | _ => some ⟨.identity e :: frames, .operand⟩
  else if w == "if" then
    match endOperand e frames with
    | (_, .test _ :: _) => none
    | (_, .source _ _ :: _) => none
    | (yes, rest) => some ⟨.test yes :: rest, .operand⟩
  else if w == "else" then
    match endOperand e frames with
    | (test, .test yes :: rest) => some ⟨.otherwise yes test :: rest, .operand⟩
    | _ => none
  else if w == "for" then
    match endExpression e frames with
    | (body, .element :: rest) => some ⟨rest, .item body⟩
    | _ => none
  else none

/-- A mark after a primary expression. -/
def mark (e : Expr) (frames : List Frame) (m : String) : Option Reading :=
  if m == "." then some ⟨frames, .attribute e⟩
  else if m == "(" then some ⟨.argument e [] :: frames, .operand⟩
  else if m == "," then
    match endExpression e frames with
    | (last, .argument f before :: rest) => some ⟨.argument f (last :: before) :: rest, .operand⟩
    | _ => none
  else if m == ")" then
    match endExpression e frames with
    | (inner, .group :: rest) => some ⟨rest, .more inner⟩
    | (last, .argument f before :: rest) => some ⟨rest, .more (.call f (last :: before).reverse)⟩
    | _ => none
  else if m == "]" then
    match endOperand e frames with
    | (source, .source body item :: rest) => some ⟨rest, .more (.each body item source)⟩
    | _ => none
  else none

/-- One token read. -/
def step (r : Reading) (t : Token) : Option Reading :=
  match r.awaited, t with
  | .operand, t => operand r.frames t
  | .more e, .word w => word e r.frames w
  | .more e, .mark m => mark e r.frames m
  | .attribute e, .word w => (name? w).map fun n => ⟨r.frames, .more (.attribute e n)⟩
  | .item body, .word w => (name? w).map fun n => ⟨r.frames, .member body n⟩
  | .member body item, .word w => if w == "in" then some ⟨.source body item :: r.frames, .operand⟩ else none
  | _, _ => none

section
variable (frames : List Frame) (e : Expr)

@[simp] theorem step_operand (t : Token) : step ⟨frames, .operand⟩ t = operand frames t := rfl

@[simp] theorem step_word (w : String) : step ⟨frames, .more e⟩ (.word w) = word e frames w := rfl

@[simp] theorem step_mark (m : String) : step ⟨frames, .more e⟩ (.mark m) = mark e frames m := rfl

@[simp] theorem step_attribute (w : String) :
    step ⟨frames, .attribute e⟩ (.word w) = (name? w).map fun n => ⟨frames, .more (.attribute e n)⟩ := rfl

@[simp] theorem step_item (w : String) : step ⟨frames, .item e⟩ (.word w) = (name? w).map fun n => ⟨frames, .member e n⟩ := rfl

@[simp] theorem operand_word (w : String) : operand frames (.word w) =
    if w == "None" then some ⟨frames, .more .nothing⟩ else (name? w).map fun n => ⟨frames, .more (.name n)⟩ := rfl

end

/-- Tokens read one after another. -/
def run (r : Reading) (ts : List Token) : Option Reading :=
  ts.foldlM step r

/-- The expression that a reading is of, if it is complete. -/
def result? (r : Reading) : Option Expr :=
  match r.awaited with
  | .more e =>
    match endExpression e r.frames with
    | (whole, []) => some whole
    | _ => none
  | _ => none

end Reading

/-- A text read as an expression. -/
def readText (text : String) : Option Expr := do
  let ts ← lex (text.toList.length + 1) text.toList
  let r ← Reading.run {} ts
  r.result?

/-! ## Filled holes -/

mutual

/-- The expression with a name in its holes. -/
def Expr.fill (x : Name) : Expr → Expr
  | .hole => .name x
  | .name n => .name n
  | .nothing => .nothing
  | .attribute e n => .attribute (e.fill x) n
  | .call f args => .call (f.fill x) (fillAll x args)
  | .same a b => .same (a.fill x) (b.fill x)
  | .choice yes test no => .choice (yes.fill x) (test.fill x) (no.fill x)
  | .each body item source => .each (body.fill x) item (source.fill x)

/-- The expressions with a name in their holes. -/
def fillAll (x : Name) : List Expr → List Expr
  | [] => []
  | e :: rest => e.fill x :: fillAll x rest

end

/-! ## Reading what was written -/

/-- The primary expression that an expression ends with, and what is begun when it was read. -/
def Expr.trailing (x : Name) (place : Place) : Expr → Expr × List Frame
  | .same a b => if place = .primary then ((Expr.same a b).fill x, []) else (b.fill x, [.identity (a.fill x)])
  | .choice yes test no =>
    if place = .anything then
      ((no.trailing x .anything).1, (no.trailing x .anything).2 ++ [.otherwise (yes.fill x) (test.fill x)])
    else ((Expr.choice yes test no).fill x, [])
  | e => (e.fill x, [])

/-- An expression of a place may be read with these frames. -/
def Place.Allows (place : Place) (frames : List Frame) : Prop :=
  match place, frames with
  | .operand, .identity _ :: _ => False
  | .anything, .identity _ :: _ => False
  | .anything, .test _ :: _ => False
  | .anything, .source _ _ :: _ => False
  | _, _ => True

section
variable (x : Name) {frames : List Frame}

theorem Reading.run_cons {r r' : Reading} {t : Token} {ts : List Token} (h : r.step t = some r') :
    r.run (t :: ts) = r'.run ts := by
  rw [run, List.foldlM_cons, h]
  rfl

theorem endOperand_of_allows {e : Expr} (h : Place.Allows .operand frames) : endOperand e frames = (e, frames) := by
  unfold endOperand
  split
  · cases h
  · rfl

theorem endOperand_trailing (e : Expr) {place : Place} (hplace : place ≠ .anything) (h : Place.Allows .operand frames) :
    endOperand (e.trailing x place).1 ((e.trailing x place).2 ++ frames) = (e.fill x, frames) := by
  cases e with
  | same a b =>
    rw [Expr.trailing]
    split
    · exact endOperand_of_allows h
    · rfl
  | choice yes test no =>
    rw [Expr.trailing, if_neg hplace]
    exact endOperand_of_allows h
  | _ => exact endOperand_of_allows h

theorem endExpression_of_allows {e : Expr} (h : Place.Allows .operand frames) : endExpression e frames = endChoices e frames := by
  rw [endExpression, endOperand_of_allows h]

/-- Where an expression ends, it is complete. -/
theorem endExpression_trailing {frames : List Frame} (h : Place.Allows .operand frames) :
    ∀ e : Expr, endExpression (e.trailing x .anything).1 ((e.trailing x .anything).2 ++ frames) = endChoices (e.fill x) frames
  | .choice yes test no => by
    have hallows : Place.Allows .operand (.otherwise (yes.fill x) (test.fill x) :: frames) := trivial
    rw [Expr.trailing, if_pos rfl, List.append_assoc, List.singleton_append]
    exact endExpression_trailing hallows no
  | .same a b => rfl
  | .hole => endExpression_of_allows h
  | .name _ => endExpression_of_allows h
  | .nothing => endExpression_of_allows h
  | .attribute _ _ => endExpression_of_allows h
  | .call _ _ => endExpression_of_allows h
  | .each _ _ _ => endExpression_of_allows h

/-- An argument is complete where the call goes on. -/
theorem endExpression_argument (e : Expr) {f : Expr} {before : List Expr} :
    endExpression (e.trailing x .anything).1 ((e.trailing x .anything).2 ++ .argument f before :: frames) =
      (e.fill x, .argument f before :: frames) := by
  have hallows : Place.Allows .operand (.argument f before :: frames) := trivial
  exact endExpression_trailing x hallows e

/-- The body of a comprehension is complete where its items are named. -/
theorem endExpression_element (e : Expr) :
    endExpression (e.trailing x .anything).1 ((e.trailing x .anything).2 ++ .element :: frames) =
      (e.fill x, .element :: frames) := by
  have hallows : Place.Allows .operand (.element :: frames) := trivial
  exact endExpression_trailing x hallows e

theorem name?_val (n : Name) : name? n.val = some n :=
  dif_pos n.property

theorem val_ne_none (n : Name) : n.val ≠ "None" := by
  intro h
  have hreserved := (Bool.and_eq_true_iff.mp n.property).2
  rw [h] at hreserved
  revert hreserved
  decide

/-- A name is read as an operand. -/
theorem Reading.run_name (n : Name) (ts : List Token) :
    Reading.run ⟨frames, .operand⟩ (.word n.val :: ts) = Reading.run ⟨frames, .more (.name n)⟩ ts := by
  refine run_cons ?_
  simp [val_ne_none, name?_val]

theorem Place.allows_operand {place : Place} (hplace : place ≠ .primary) (h : place.Allows frames) :
    Place.Allows .operand frames := by
  cases place with
  | anything =>
    cases frames with
    | nil => trivial
    | cons frame rest =>
      cases frame with
      | identity a => exact h
      | _ => trivial
  | operand => exact h
  | primary => exact absurd rfl hplace

/-! The words and marks after a primary expression -/

section
variable {e whole : Expr} {begun : List Frame} {ts : List Token}

theorem Reading.run_is (h : Place.Allows .operand frames) :
    Reading.run ⟨frames, .more e⟩ (.word "is" :: ts) = Reading.run ⟨.identity e :: frames, .operand⟩ ts := by
  refine run_cons ?_
  cases frames with
  | nil => rfl
  | cons frame rest =>
    cases frame with
    | identity a => cases h
    | _ => rfl

theorem Reading.run_if (hend : endOperand e begun = (whole, frames)) (h : Place.Allows .anything frames) :
    Reading.run ⟨begun, .more e⟩ (.word "if" :: ts) = Reading.run ⟨.test whole :: frames, .operand⟩ ts := by
  refine run_cons ?_
  cases frames with
  | nil => simp [word, hend]
  | cons frame rest =>
    cases frame with
    | test yes => cases h
    | source body item => cases h
    | _ => simp [word, hend]

theorem Reading.run_else {yes : Expr} (hend : endOperand e begun = (whole, .test yes :: frames)) :
    Reading.run ⟨begun, .more e⟩ (.word "else" :: ts) = Reading.run ⟨.otherwise yes whole :: frames, .operand⟩ ts := by
  refine run_cons ?_
  simp [word, hend]

theorem Reading.run_for {item : Name} (hend : endExpression e begun = (whole, .element :: frames)) :
    Reading.run ⟨begun, .more e⟩ (.word "for" :: .word item.val :: .word "in" :: ts) =
      Reading.run ⟨.source whole item :: frames, .operand⟩ ts := by
  have hfor : step ⟨begun, .more e⟩ (.word "for") = some ⟨frames, .item whole⟩ := by simp [word, hend]
  have hitem : step ⟨frames, .item whole⟩ (.word item.val) = some ⟨frames, .member whole item⟩ := by
    simp [name?_val]
  rw [run_cons hfor, run_cons hitem]
  exact run_cons rfl

theorem Reading.run_bracket {body : Expr} {item : Name} (hend : endOperand e begun = (whole, .source body item :: frames)) :
    Reading.run ⟨begun, .more e⟩ (.mark "]" :: ts) = Reading.run ⟨frames, .more (.each body item whole)⟩ ts := by
  refine run_cons ?_
  simp [mark, hend]

theorem Reading.run_group (hend : endExpression e begun = (whole, .group :: frames)) :
    Reading.run ⟨begun, .more e⟩ (.mark ")" :: ts) = Reading.run ⟨frames, .more whole⟩ ts := by
  refine run_cons ?_
  simp [mark, hend]

theorem Reading.run_comma {f : Expr} {before : List Expr}
    (hend : endExpression e begun = (whole, .argument f before :: frames)) :
    Reading.run ⟨begun, .more e⟩ (.mark "," :: ts) = Reading.run ⟨.argument f (whole :: before) :: frames, .operand⟩ ts := by
  refine run_cons ?_
  simp [mark, hend]

theorem Reading.run_call {f : Expr} {before : List Expr}
    (hend : endExpression e begun = (whole, .argument f before :: frames)) :
    Reading.run ⟨begun, .more e⟩ (.mark ")" :: ts) =
      Reading.run ⟨frames, .more (.call f (before.reverse ++ [whole]))⟩ ts := by
  refine run_cons ?_
  simp [mark, hend]

theorem Reading.run_attribute (n : Name) :
    Reading.run ⟨frames, .more e⟩ (.mark "." :: .word n.val :: ts) = Reading.run ⟨frames, .more (.attribute e n)⟩ ts := by
  have hname : step ⟨frames, .attribute e⟩ (.word n.val) = some ⟨frames, .more (.attribute e n)⟩ := by
    simp [name?_val]
  exact (run_cons rfl).trans (run_cons hname)

end

/-! The tokens of expressions by their parts -/

section
variable (ls : List Lexeme)

@[simp] theorem filterMap_word (s : String) :
    (Lexeme.word s :: ls).filterMap Lexeme.token? = .word s :: ls.filterMap Lexeme.token? := rfl

@[simp] theorem filterMap_mark (c : Char) :
    (Lexeme.mark c :: ls).filterMap Lexeme.token? = .mark c.toString :: ls.filterMap Lexeme.token? := rfl

@[simp] theorem filterMap_space : (Lexeme.space :: ls).filterMap Lexeme.token? = ls.filterMap Lexeme.token? := rfl

end

/-- The tokens of a test for identity. -/
def sameTokens (a b : Expr) : List Token :=
  a.tokens x .primary ++ .word "is" :: b.tokens x .primary

/-- The tokens of a conditional expression. -/
def choiceTokens (yes test no : Expr) : List Token :=
  yes.tokens x .operand ++ .word "if" :: (test.tokens x .operand ++ .word "else" :: no.tokens x .anything)

/-- The tokens of arguments, with the bracket that closes them. -/
def argumentTokens (args : List Expr) : List Token :=
  (argumentLexemes x args).filterMap Lexeme.token? ++ [.mark ")"]

/-- The tokens of arguments after others, with the bracket that closes them. -/
def laterTokens (args : List Expr) : List Token :=
  (laterLexemes x args).filterMap Lexeme.token? ++ [.mark ")"]

theorem tokens_same (a b : Expr) (place : Place) : (Expr.same a b).tokens x place =
    if place = .primary then .mark "(" :: (sameTokens x a b ++ [.mark ")"]) else sameTokens x a b := by
  rw [Expr.tokens, Expr.lexemes]
  split <;> simp [grouped, sameTokens, Expr.tokens]

theorem tokens_choice (yes test no : Expr) (place : Place) : (Expr.choice yes test no).tokens x place =
    if place = .anything then choiceTokens x yes test no else .mark "(" :: (choiceTokens x yes test no ++ [.mark ")"]) := by
  rw [Expr.tokens, Expr.lexemes]
  split <;> simp [grouped, choiceTokens, Expr.tokens]

theorem tokens_each (body : Expr) (item : Name) (source : Expr) (place : Place) :
    (Expr.each body item source).tokens x place =
      .mark "[" :: (body.tokens x .anything ++ .word "for" :: .word item.val :: .word "in" ::
        (source.tokens x .operand ++ [.mark "]"])) := by
  simp [Expr.tokens, Expr.lexemes]

theorem tokens_attribute (e : Expr) (n : Name) (place : Place) :
    (Expr.attribute e n).tokens x place = e.tokens x .primary ++ [.mark ".", .word n.val] := by
  simp [Expr.tokens, Expr.lexemes]

theorem tokens_call (f : Expr) (args : List Expr) (place : Place) :
    (Expr.call f args).tokens x place = f.tokens x .primary ++ .mark "(" :: argumentTokens x args := by
  simp [Expr.tokens, Expr.lexemes, argumentTokens]

theorem argumentTokens_cons (e : Expr) (rest : List Expr) :
    argumentTokens x (e :: rest) = e.tokens x .anything ++ laterTokens x rest := by
  simp [argumentTokens, laterTokens, argumentLexemes, Expr.tokens]

theorem laterTokens_cons (e : Expr) (rest : List Expr) :
    laterTokens x (e :: rest) = .mark "," :: (e.tokens x .anything ++ laterTokens x rest) := by
  simp [laterTokens, laterLexemes, Expr.tokens]

/-- A part between brackets is read as its expression, if it would be complete there. -/
theorem run_grouped {e whole : Expr} {begun frames : List Frame} {part : List Token} (ts : List Token)
    (hpart : ∀ ts, Reading.run ⟨.group :: frames, .operand⟩ (part ++ ts) = Reading.run ⟨begun, .more e⟩ ts)
    (hend : endExpression e begun = (whole, .group :: frames)) :
    Reading.run ⟨frames, .operand⟩ (.mark "(" :: (part ++ [.mark ")"]) ++ ts) = Reading.run ⟨frames, .more whole⟩ ts := by
  have hopen : Reading.step ⟨frames, .operand⟩ (.mark "(") = some ⟨.group :: frames, .operand⟩ := rfl
  rw [List.cons_append, Reading.run_cons hopen, List.append_assoc, hpart]
  exact Reading.run_group hend

theorem trailing_primary (e : Expr) : e.trailing x .primary = (e.fill x, []) := by
  cases e <;> rfl

mutual

/-- An expression that was written at a place is read up to the primary expression at its end. -/
theorem run_tokens : ∀ (e : Expr) (place : Place) (frames : List Frame) (ts : List Token), place.Allows frames →
    Reading.run ⟨frames, .operand⟩ (e.tokens x place ++ ts) =
      Reading.run ⟨(e.trailing x place).2 ++ frames, .more (e.trailing x place).1⟩ ts
  | .hole, _, _, ts, _ => Reading.run_name x ts
  | .name n, _, _, ts, _ => Reading.run_name n ts
  | .nothing, _, _, _, _ => rfl
  | .attribute e n, place, frames, ts, h => by
    have he := run_tokens e .primary frames (.mark "." :: .word n.val :: ts) trivial
    rw [trailing_primary] at he
    rw [tokens_attribute, List.append_assoc]
    exact he.trans (Reading.run_attribute n)
  | .call f args, place, frames, ts, h => by
    have hf := run_tokens f .primary frames (.mark "(" :: (argumentTokens x args ++ ts)) trivial
    have hopen : Reading.step ⟨frames, .more (f.fill x)⟩ (.mark "(") = some ⟨.argument (f.fill x) [] :: frames, .operand⟩ :=
      rfl
    rw [trailing_primary] at hf
    rw [tokens_call, List.append_assoc]
    exact hf.trans ((Reading.run_cons hopen).trans (run_arguments args (f.fill x) frames ts))
  | .same a b, place, frames, ts, h => by
    have hsame : ∀ (frames : List Frame) (ts : List Token), Place.Allows .operand frames →
        Reading.run ⟨frames, .operand⟩ (sameTokens x a b ++ ts) =
          Reading.run ⟨.identity (a.fill x) :: frames, .more (b.fill x)⟩ ts := by
      intro frames ts hallows
      have ha := run_tokens a .primary frames (.word "is" :: (b.tokens x .primary ++ ts)) trivial
      have hb := run_tokens b .primary (.identity (a.fill x) :: frames) ts trivial
      rw [trailing_primary] at ha hb
      rw [sameTokens, List.append_assoc]
      exact ha.trans ((Reading.run_is hallows).trans hb)
    rw [tokens_same, Expr.trailing]
    by_cases hplace : place = .primary
    · rw [if_pos hplace, if_pos hplace]
      exact run_grouped ts (fun ts => hsame _ ts trivial) rfl
    · rw [if_neg hplace, if_neg hplace]
      exact hsame frames ts (Place.allows_operand hplace h)
  | .choice yes test no, place, frames, ts, h => by
    have hchoice : ∀ (frames : List Frame) (ts : List Token), Place.Allows .anything frames →
        Reading.run ⟨frames, .operand⟩ (choiceTokens x yes test no ++ ts) =
          Reading.run ⟨(no.trailing x .anything).2 ++ .otherwise (yes.fill x) (test.fill x) :: frames,
            .more (no.trailing x .anything).1⟩ ts := by
      intro frames ts hallows
      have hyes := run_tokens yes .operand frames
        (.word "if" :: (test.tokens x .operand ++ .word "else" :: (no.tokens x .anything ++ ts)))
        (Place.allows_operand (by decide) hallows)
      have htest := run_tokens test .operand (.test (yes.fill x) :: frames) (.word "else" :: (no.tokens x .anything ++ ts)) trivial
      have hno := run_tokens no .anything (.otherwise (yes.fill x) (test.fill x) :: frames) ts trivial
      have hif : endOperand (yes.trailing x .operand).1 ((yes.trailing x .operand).2 ++ frames) = (yes.fill x, frames) :=
        endOperand_trailing x yes (by decide) (Place.allows_operand (by decide) hallows)
      have helse : endOperand (test.trailing x .operand).1 ((test.trailing x .operand).2 ++ .test (yes.fill x) :: frames) =
          (test.fill x, .test (yes.fill x) :: frames) := endOperand_trailing x test (by decide) trivial
      rw [choiceTokens, List.append_assoc, List.cons_append, List.append_assoc, List.cons_append, hyes,
        Reading.run_if hif hallows, htest, Reading.run_else helse]
      exact hno
    rw [tokens_choice, Expr.trailing]
    by_cases hplace : place = .anything
    · rw [if_pos hplace, if_pos hplace, List.append_assoc]
      exact hchoice frames ts (by rwa [hplace] at h)
    · rw [if_neg hplace, if_neg hplace]
      have hallows : Place.Allows .operand (.otherwise (yes.fill x) (test.fill x) :: .group :: frames) := trivial
      exact run_grouped ts (fun ts => hchoice _ ts trivial) (endExpression_trailing x hallows no)
  | .each body item source, place, frames, ts, h => by
    have hopen : Reading.step ⟨frames, .operand⟩ (.mark "[") = some ⟨.element :: frames, .operand⟩ := rfl
    have hbody := run_tokens body .anything (.element :: frames)
      (.word "for" :: .word item.val :: .word "in" :: (source.tokens x .operand ++ .mark "]" :: ts)) trivial
    have hfor : endExpression (body.trailing x .anything).1 ((body.trailing x .anything).2 ++ .element :: frames) =
        (body.fill x, .element :: frames) := endExpression_element x body
    have hsource := run_tokens source .operand (.source (body.fill x) item :: frames) (.mark "]" :: ts) trivial
    have hclose : endOperand (source.trailing x .operand).1
        ((source.trailing x .operand).2 ++ .source (body.fill x) item :: frames) =
          (source.fill x, .source (body.fill x) item :: frames) := endOperand_trailing x source (by decide) trivial
    have htokens : (Expr.each body item source).tokens x place ++ ts =
        .mark "[" :: (body.tokens x .anything ++ .word "for" :: .word item.val :: .word "in" ::
          (source.tokens x .operand ++ .mark "]" :: ts)) := by
      rw [tokens_each]
      simp
    rw [htokens, Reading.run_cons hopen, hbody, Reading.run_for hfor, hsource]
    exact Reading.run_bracket hclose

theorem run_arguments : ∀ (args : List Expr) (f : Expr) (frames : List Frame) (ts : List Token),
    Reading.run ⟨.argument f [] :: frames, .operand⟩ (argumentTokens x args ++ ts) =
      Reading.run ⟨frames, .more (.call f (fillAll x args))⟩ ts
  | [], f, frames, ts => rfl
  | e :: rest, f, frames, ts => by
    have he := run_tokens e .anything (.argument f [] :: frames) (laterTokens x rest ++ ts) trivial
    rw [argumentTokens_cons, List.append_assoc]
    exact he.trans (run_later rest e [] f frames ts)

theorem run_later : ∀ (rest : List Expr) (e : Expr) (before : List Expr) (f : Expr) (frames : List Frame) (ts : List Token),
    Reading.run ⟨(e.trailing x .anything).2 ++ .argument f before :: frames, .more (e.trailing x .anything).1⟩
        (laterTokens x rest ++ ts) =
      Reading.run ⟨frames, .more (.call f (before.reverse ++ e.fill x :: fillAll x rest))⟩ ts
  | [], e, before, f, frames, ts => Reading.run_call (endExpression_argument x e)
  | e' :: rest, e, before, f, frames, ts => by
    have he' := run_tokens e' .anything (.argument f (e.fill x :: before) :: frames) (laterTokens x rest ++ ts) trivial
    have hrest := run_later rest e' (e.fill x :: before) f frames ts
    have hcomma : Reading.run ⟨(e.trailing x .anything).2 ++ .argument f before :: frames, .more (e.trailing x .anything).1⟩
        (.mark "," :: (e'.tokens x .anything ++ (laterTokens x rest ++ ts))) = _ :=
      Reading.run_comma (endExpression_argument x e)
    rw [laterTokens_cons, List.cons_append, List.append_assoc, hcomma, he', hrest]
    simp [fillAll]

end

/-- The text of an expression is read as the expression with the name in its holes. -/
theorem readText_text (e : Expr) : readText (e.text x) = some (e.fill x) := by
  have hallows : Place.Allows .operand ([] : List Frame) := trivial
  have hrun := run_tokens x e .anything [] [] trivial
  have hend := endExpression_trailing x hallows e
  rw [List.append_nil] at hrun hend
  have hresult : Reading.result? ⟨(e.trailing x .anything).2, .more (e.trailing x .anything).1⟩ = some (e.fill x) := by
    simp [Reading.result?, hend, endChoices]
  rw [readText, lex_text]
  simp only [Option.bind_eq_bind, Option.bind_some, hrun, List.append_nil]
  exact hresult

end

end TypedOperations.Expression
