import TypedOperations.Proofs.Source.Lexemes

/-!
# Expressions as they are written

Expressions of names, attributes, calls, tests for identity, conditional expressions and list comprehensions, in which a hole
stands for the expression of an element. An expression is written with the brackets that the precedence of its parts asks for,
and the text is cut into the tokens that were written (`lex_text`).
-/

namespace TypedOperations.Expression

open Source

/-- A name that a module may declare. -/
abbrev Name := { s : String // Text.isDeclarable s = true }

/-- An expression, which may have holes. -/
inductive Expr where
  | hole
  | name (n : Name)
  /-- The constant `None`. -/
  | nothing
  | attribute (e : Expr) (n : Name)
  | call (f : Expr) (args : List Expr)
  /-- A test whether two values are the same object. -/
  | same (a b : Expr)
  /-- The first expression if the test holds, the last one otherwise. -/
  | choice (yes test no : Expr)
  /-- A list of the values of the body for every item of the source. -/
  | each (body : Expr) (item : Name) (source : Expr)

/-! ## Writing -/

/-- What may stand at a place without brackets. -/
inductive Place where
  | anything
  /-- No conditional expression. -/
  | operand
  /-- Neither a conditional expression nor a comparison. -/
  | primary
deriving DecidableEq

/-- A part between brackets. -/
def grouped (part : List Lexeme) : List Lexeme :=
  .mark '(' :: (part ++ [.mark ')'])

mutual

/-- An expression as it is written at a place, with a name in its holes. -/
def Expr.lexemes (x : Name) (place : Place) : Expr → List Lexeme
  | .hole => [.word x.val]
  | .name n => [.word n.val]
  | .nothing => [.word "None"]
  | .attribute e n => e.lexemes x .primary ++ [.mark '.', .word n.val]
  | .call f args => f.lexemes x .primary ++ .mark '(' :: (argumentLexemes x args ++ [.mark ')'])
  | .same a b =>
    let part := a.lexemes x .primary ++ .space :: .word "is" :: .space :: b.lexemes x .primary
    if place = .primary then grouped part else part
  | .choice yes test no =>
    let part := yes.lexemes x .operand ++ .space :: .word "if" :: .space :: (test.lexemes x .operand ++
      .space :: .word "else" :: .space :: no.lexemes x .anything)
    if place = .anything then part else grouped part
  | .each body item source =>
    .mark '[' :: (body.lexemes x .anything ++ .space :: .word "for" :: .space :: .word item.val :: .space :: .word "in" ::
      .space :: (source.lexemes x .operand ++ [.mark ']']))

/-- Arguments with commas between them. -/
def argumentLexemes (x : Name) : List Expr → List Lexeme
  | [] => []
  | e :: rest => e.lexemes x .anything ++ laterLexemes x rest

/-- Arguments after others. -/
def laterLexemes (x : Name) : List Expr → List Lexeme
  | [] => []
  | e :: rest => .mark ',' :: .space :: (e.lexemes x .anything ++ laterLexemes x rest)

end

/-- The text of an expression with a name in its holes. -/
def Expr.text (x : Name) (e : Expr) : String :=
  String.ofList ((e.lexemes x .anything).flatMap Lexeme.chars)

theorem Expr.toList_text (x : Name) (e : Expr) : (e.text x).toList = (e.lexemes x .anything).flatMap Lexeme.chars :=
  String.toList_ofList

/-- The tokens of an expression at a place. -/
def Expr.tokens (x : Name) (place : Place) (e : Expr) : List Token :=
  (e.lexemes x place).filterMap Lexeme.token?

/-! ## Cutting into tokens -/

/-- The tokens of a text on one line, with any nesting of brackets. -/
def lex (fuel : Nat) (cs : List Char) : Option (List Token) :=
  (cut fuel cs).map (·.map Prod.snd)

theorem lex_of_apart {ls : List Lexeme} (hls : Apart ls) :
    lex ((ls.flatMap Lexeme.chars).length + 1) (ls.flatMap Lexeme.chars) = some (ls.filterMap Lexeme.token?) := by
  rw [lex, hls.cut_chars, Option.map_some, List.map_filterMap]
  simp [Function.comp_def]

/-! ## The pieces of an expression are kept apart -/

theorem isIdentifier_name (n : Name) : Text.isIdentifier n.val = true :=
  (Bool.and_eq_true_iff.mp n.property).1

/-- A part in brackets is kept apart, if the part is. -/
theorem apart_grouped {part rest : List Lexeme} (hpart : ∀ rest', Follows rest' → Apart (part ++ rest'))
    (hrest : Follows rest) : Apart (grouped part ++ rest) := by
  rw [grouped, List.cons_append, List.append_assoc]
  exact (Follows.mark (hpart _ (.mark hrest.toApart (by decide) (by decide))) (by decide) (by decide)).toApart

mutual

/-- The pieces of an expression are kept apart from each other and from what follows. -/
theorem apart_lexemes (x : Name) (place : Place) {rest : List Lexeme} (hrest : Follows rest) :
    ∀ e : Expr, Apart (e.lexemes x place ++ rest)
  | .hole => hrest.word (isIdentifier_name x)
  | .name n => hrest.word (isIdentifier_name n)
  | .nothing => hrest.word (by decide +kernel)
  | .attribute e n => by
    rw [Expr.lexemes, List.append_assoc]
    exact apart_lexemes x .primary (hrest.point (isIdentifier_name n)) e
  | .call f args => by
    rw [Expr.lexemes, List.append_assoc, List.cons_append, List.append_assoc]
    have hclose : Follows (.mark ')' :: rest) := .mark hrest.toApart (by decide) (by decide)
    exact apart_lexemes x .primary (.mark (apart_arguments x hclose args) (by decide) (by decide)) f
  | .same a b => by
    have hpart : ∀ rest', Follows rest' →
        Apart ((a.lexemes x .primary ++ .space :: .word "is" :: .space :: b.lexemes x .primary) ++ rest') := by
      intro rest' hrest'
      rw [List.append_assoc]
      exact apart_lexemes x .primary (.spaced (apart_lexemes x .primary hrest' b) (by decide +kernel)) a
    rw [Expr.lexemes]
    split
    · exact apart_grouped hpart hrest
    · exact hpart rest hrest
  | .choice yes test no => by
    have hpart : ∀ rest', Follows rest' →
        Apart ((yes.lexemes x .operand ++ .space :: .word "if" :: .space :: (test.lexemes x .operand ++
          .space :: .word "else" :: .space :: no.lexemes x .anything)) ++ rest') := by
      intro rest' hrest'
      have helse := Follows.spaced (s := "else") (apart_lexemes x .anything hrest' no) (by decide +kernel)
      have hif := Follows.spaced (s := "if") (apart_lexemes x .operand helse test) (by decide +kernel)
      simpa only [List.append_assoc, List.cons_append] using apart_lexemes x .operand hif yes
    rw [Expr.lexemes]
    split
    · exact hpart rest hrest
    · exact apart_grouped hpart hrest
  | .each body item source => by
    have hclose : Follows (.mark ']' :: rest) := .mark hrest.toApart (by decide) (by decide)
    have hin := Follows.spaced (s := "in") (apart_lexemes x .operand hclose source) (by decide +kernel)
    have hfor := Follows.spaced (s := "for") (hin.word (isIdentifier_name item)) (by decide +kernel)
    have hopen := Follows.mark (c := '[') (apart_lexemes x .anything hfor body) (by decide) (by decide)
    simpa only [Expr.lexemes, List.append_assoc, List.cons_append, List.nil_append] using hopen.toApart

theorem apart_arguments (x : Name) {rest : List Lexeme} (hrest : Follows rest) :
    ∀ args : List Expr, Apart (argumentLexemes x args ++ rest)
  | [] => hrest.toApart
  | e :: args => by
    rw [argumentLexemes, List.append_assoc]
    exact apart_lexemes x .anything (follows_later x hrest args) e

theorem follows_later (x : Name) {rest : List Lexeme} (hrest : Follows rest) :
    ∀ args : List Expr, Follows (laterLexemes x args ++ rest)
  | [] => hrest
  | e :: args => by
    rw [laterLexemes, List.cons_append, List.cons_append, List.append_assoc]
    exact .mark (Follows.space (apart_lexemes x .anything (follows_later x hrest args) e)).toApart (by decide) (by decide)

end

/-- The text of an expression is cut into the tokens that were written. -/
theorem lex_text (x : Name) (e : Expr) :
    lex ((e.text x).toList.length + 1) (e.text x).toList = some (e.tokens x .anything) := by
  have hapart : Apart (e.lexemes x .anything) := by
    have h := apart_lexemes x .anything .nil e
    rwa [List.append_nil] at h
  rw [Expr.toList_text]
  exact lex_of_apart hapart

end TypedOperations.Expression
