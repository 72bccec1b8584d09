import Mathlib.Data.List.Chain
import TypedOperations.Proofs.Source.Numeral
import TypedOperations.Proofs.Source.Strings

/-!
# Lexemes

An expression on one line is written in lexemes: words, whole numbers, strings, marks and spaces. Its text is cut into tokens,
each with its characters (`cut`). Lexemes that are kept apart are cut into the tokens that were written (`Apart.cut_chars`):
words, numbers and strings have a mark or a space between them, a point stands before a word and not after a number.
-/

namespace TypedOperations.Source

/-! ## Cutting into tokens -/

/-- The token that a text starts with, and what follows it. -/
def nextToken? (cs : List Char) : Option (Token × List Char) :=
  match plainToken? cs with
  | some found => some found
  | none => (markAt? cs).map fun found => (.mark found.1, found.2)

/-- The tokens of a text on one line, with any nesting of brackets, each with the characters that it is written with. -/
def cut : Nat → List Char → Option (List (List Char × Token))
  | 0, _ => none
  | _ + 1, [] => some []
  | fuel + 1, c :: rest =>
    if c == ' ' then cut fuel rest
    else
      match nextToken? (c :: rest) with
      | some (t, more) => (cut fuel more).map (((c :: rest).take ((c :: rest).length - more.length), t) :: ·)
      | none => none

/-! ## Writing -/

/-- A piece of a written expression. -/
inductive Lexeme where
  | word (s : String)
  | number (n : Nat)
  | text (s : String)
  | mark (c : Char)
  | space

namespace Lexeme

/-- The characters of a piece. -/
def chars : Lexeme → List Char
  | .word s => s.toList
  | .number n => Nat.toDigits 10 n
  | .text s => literalChars s.toList
  | .mark c => [c]
  | .space => [' ']

/-- The token of a piece; a space has none. -/
def token? : Lexeme → Option Token
  | .word s => some (.word s)
  | .number _ => some (.number false)
  | .text s => some (.string (literalString s.toList))
  | .mark c => some (.mark c.toString)
  | .space => none

/-- The piece ends what comes before it. -/
def isSeparator : Lexeme → Bool
  | .mark _ => true
  | .space => true
  | _ => false

/-- The piece can be read: a word is one, a number is not too long, a string has no null character, and a mark is one of those
of expressions. -/
def Fits : Lexeme → Prop
  | .word s => IsWord s
  | .number n => (Nat.toDigits 10 n).length ≤ Decimal.maxDigits
  | .text s => '\x00' ∉ s.toList
  | .mark c => c ∈ partMarks
  | .space => True

/-- The second piece may come directly after the first. -/
structure Precedes (a b : Lexeme) : Prop where
  apart : a.isSeparator = true ∨ b.isSeparator = true
  point : a = .mark '.' → ∃ s, b = .word s
  number : ∀ n, a = .number n → b ≠ .mark '.'

/-- A piece has a first character, which makes no longer mark of the one before it; only a space starts with a space. -/
theorem Fits.first {l : Lexeme} (hl : l.Fits) :
    ∃ c more, l.chars = c :: more ∧ c ≠ '=' ∧ c ≠ '>' ∧ (l ≠ .space → c ≠ ' ') := by
  have hword : ∀ {c}, isWordChar c = true → c ≠ '=' ∧ c ≠ '>' ∧ c ≠ ' ' := by
    refine fun {c} hc => ⟨?_, ?_, ?_⟩ <;> rintro rfl <;> cases hc
  cases l with
  | word s =>
    obtain ⟨c, more, hchars, -⟩ := IsWord.first hl
    obtain ⟨h1, h2, h3⟩ := hword (IsWord.chars hl c (by simp [hchars]))
    exact ⟨c, more, hchars, h1, h2, fun _ => h3⟩
  | number n =>
    obtain ⟨c, more, hdigits⟩ := List.exists_cons_of_ne_nil (Nat.toDigits_ne_nil (n := n) (b := 10))
    have hdigit : c.isDigit = true := Nat.isDigit_of_mem_toDigits (b := 10) (n := n) (by decide) (by decide) (by simp [hdigits])
    obtain ⟨h1, h2, h3⟩ := hword (isWordChar_of_isDigit hdigit)
    exact ⟨c, more, hdigits, h1, h2, fun _ => h3⟩
  | text s => exact ⟨'\x22', _, rfl, by decide, by decide, fun _ => by decide⟩
  | mark c =>
    have hmarks : ∀ m ∈ partMarks, m ≠ '=' ∧ m ≠ '>' ∧ m ≠ ' ' := forall_partMarks (by decide)
    obtain ⟨h1, h2, h3⟩ := hmarks c hl
    exact ⟨c, [], rfl, h1, h2, fun _ => h3⟩
  | space => exact ⟨' ', [], rfl, by decide, by decide, fun h => absurd rfl h⟩

end Lexeme

/-- Pieces that are kept apart. -/
structure Apart (ls : List Lexeme) : Prop where
  fits : ∀ l ∈ ls, l.Fits
  chain : ls.IsChain Lexeme.Precedes

section
variable {l : Lexeme} {ls : List Lexeme}

theorem Apart.nil : Apart [] := ⟨by simp, .nil⟩

theorem Apart.cons (hl : l.Fits) (hls : Apart ls) (hfirst : ∀ l' ∈ ls.head?, l.Precedes l') : Apart (l :: ls) where
  fits := List.forall_mem_cons.mpr ⟨hl, hls.fits⟩
  chain := List.isChain_cons.mpr ⟨hfirst, hls.chain⟩

theorem Apart.tail (h : Apart (l :: ls)) : Apart ls :=
  ⟨fun l' hl' => h.fits l' (List.mem_cons_of_mem _ hl'), h.chain.tail⟩

theorem Apart.first (h : Apart (l :: ls)) : ∀ l' ∈ ls.head?, l.Precedes l' :=
  (List.isChain_cons.mp h.chain).1

/-! ## Pieces that are kept apart are cut into their tokens -/

/-- What follows a word, a number or a string ends it. -/
theorem Apart.endsWord (h : Apart (l :: ls)) (hl : l.isSeparator = false) : EndsWord (ls.flatMap Lexeme.chars) := by
  intro c hc
  cases ls with
  | nil => cases hc
  | cons l' more =>
    have hseparator : l'.isSeparator = true := (h.first l' rfl).apart.resolve_left (by simp [hl])
    cases l' with
    | mark m =>
      cases hc
      have hmarks : ∀ m ∈ partMarks, isWordChar m = false ∧ isQuote m = false := forall_partMarks (by decide)
      exact hmarks _ (h.fits (.mark _) (by simp))
    | space =>
      cases hc
      exact ⟨rfl, rfl⟩
    | _ => cases hseparator

theorem Apart.endsNumber {n : Nat} (h : Apart (.number n :: ls)) : EndsNumber (ls.flatMap Lexeme.chars) := by
  intro c hc
  obtain ⟨hword, hquote⟩ := h.endsWord rfl c hc
  refine ⟨hword, hquote, ?_⟩
  rintro rfl
  cases ls with
  | nil => cases hc
  | cons l' more =>
    cases l' with
    | mark m =>
      cases hc
      exact (h.first _ rfl).number n rfl rfl
    | space => cases hc
    | _ => cases (h.first _ rfl).apart <;> contradiction

/-- What follows a mark ends it. -/
theorem Apart.endsMark {c : Char} (h : Apart (.mark c :: ls)) : EndsMark c (ls.flatMap Lexeme.chars) := by
  intro d hd
  cases ls with
  | nil => cases hd
  | cons l' more =>
    have hfits : l'.Fits := h.fits l' (by simp)
    obtain ⟨first, others, hchars, h1, h2, -⟩ := hfits.first
    rw [List.flatMap_cons, hchars] at hd
    cases hd
    refine ⟨h1, h2, ?_⟩
    rintro rfl
    obtain ⟨s, rfl⟩ := (h.first l' rfl).point rfl
    obtain ⟨letter, others', hletters, hdigit⟩ := IsWord.first hfits
    cases hchars.symm.trans hletters
    refine ⟨hdigit, ?_⟩
    rintro rfl
    cases IsWord.chars hfits '.' (by simp [hletters])

/-- The next token is the one that was written. -/
theorem Apart.nextToken? (h : Apart (l :: ls)) {t : Token} (ht : l.token? = some t) :
    nextToken? (l.chars ++ ls.flatMap Lexeme.chars) = some (t, ls.flatMap Lexeme.chars) := by
  have hl : l.Fits := h.fits l List.mem_cons_self
  unfold Source.nextToken?
  cases l with
  | word s =>
    cases ht
    rw [Lexeme.chars, plainToken?_word hl (h.endsWord rfl)]
  | number n =>
    cases ht
    rw [Lexeme.chars, plainToken?_toDigits hl h.endsNumber]
  | text s =>
    cases ht
    have hquote : (ls.flatMap Lexeme.chars).head? ≠ some '\x22' := fun hq => by
      cases (h.endsWord rfl _ hq).2
    rw [Lexeme.chars, plainToken?_literal s.toList hquote]
  | mark c =>
    cases ht
    rw [Lexeme.chars, List.singleton_append, plainToken?_mark hl h.endsMark, markAt?_mark hl h.endsMark]
    rfl
  | space => cases ht

theorem Apart.cut_of_length (fuel : Nat) (hls : Apart ls) :
    cut (fuel + ls.length + 1) (ls.flatMap Lexeme.chars) = some (ls.filterMap fun l => l.token?.map (l.chars, ·)) := by
  induction ls with
  | nil => rfl
  | cons l more ih =>
    have hmore := ih hls.tail
    obtain ⟨c, others, hchars, -, -, hspace⟩ := (hls.fits l List.mem_cons_self).first
    rw [List.length_cons, ← Nat.add_assoc, List.flatMap_cons]
    cases ht : l.token? with
    | none =>
      cases l with
      | space =>
        rw [Lexeme.chars, List.singleton_append, cut, if_pos (by rfl), hmore]
        rfl
      | _ => cases ht
    | some t =>
      have hc : c ≠ ' ' := hspace (by rintro rfl; cases ht)
      have htoken := hls.nextToken? ht
      have htake : (l.chars ++ more.flatMap Lexeme.chars).take
          ((l.chars ++ more.flatMap Lexeme.chars).length - (more.flatMap Lexeme.chars).length) = l.chars := by simp
      have hcons : l.chars ++ more.flatMap Lexeme.chars = c :: (others ++ more.flatMap Lexeme.chars) := by rw [hchars]; rfl
      rw [hcons] at htoken htake
      rw [hcons, cut, if_neg (by simpa using hc), htoken]
      simp only [htake, hmore, ht, Option.map_some, List.filterMap_cons]

theorem Apart.length_le (hls : Apart ls) : ls.length ≤ (ls.flatMap Lexeme.chars).length := by
  induction ls with
  | nil => exact Nat.le_refl _
  | cons l more ih =>
    obtain ⟨c, others, hchars, -⟩ := (hls.fits l List.mem_cons_self).first
    have hmore := ih hls.tail
    rw [List.flatMap_cons, List.length_append, hchars, List.length_cons, List.length_cons]
    omega

/-- Pieces that are kept apart are cut into their tokens. -/
theorem Apart.cut_chars (hls : Apart ls) :
    cut ((ls.flatMap Lexeme.chars).length + 1) (ls.flatMap Lexeme.chars) =
      some (ls.filterMap fun l => l.token?.map (l.chars, ·)) := by
  obtain ⟨fuel, hfuel⟩ := Nat.exists_eq_add_of_le' hls.length_le
  rw [hfuel]
  exact hls.cut_of_length fuel

/-! ## What may follow an expression -/

/-- Pieces that may follow an expression: the first one is a mark or a space. -/
structure Follows (ls : List Lexeme) : Prop extends Apart ls where
  separator : ∀ l ∈ ls.head?, l.isSeparator = true

theorem Follows.nil : Follows [] := ⟨.nil, by simp⟩

theorem Follows.space (hls : Apart ls) : Follows (.space :: ls) :=
  ⟨hls.cons trivial fun _ _ => ⟨Or.inl rfl, by simp, by simp⟩, by simp [Lexeme.isSeparator]⟩

theorem Follows.mark {c : Char} (hls : Apart ls) (hc : c ∈ partMarks) (hpoint : c ≠ '.') : Follows (.mark c :: ls) :=
  ⟨hls.cons hc fun _ _ => ⟨Or.inl rfl, fun h => absurd (Lexeme.mark.inj h) hpoint, by simp⟩, by simp [Lexeme.isSeparator]⟩

/-- A word or a string may come before what may follow an expression; a number may, if no point follows. -/
theorem Follows.cons (hls : Follows ls) (hl : l.Fits) (hpoint : l ≠ .mark '.')
    (hnumber : ∀ n, l = .number n → ls.head? ≠ some (.mark '.')) : Apart (l :: ls) := by
  refine hls.toApart.cons hl fun l' hl' => ⟨Or.inr (hls.separator l' hl'), fun h => absurd h hpoint, fun n hn h => ?_⟩
  exact hnumber n hn (h ▸ hl')

theorem Follows.word {s : String} (hls : Follows ls) (hs : Text.isIdentifier s = true) : Apart (.word s :: ls) :=
  hls.cons (IsWord.of_isIdentifier hs) (by simp) (by simp)

theorem Follows.point {s : String} (hls : Follows ls) (hs : Text.isIdentifier s = true) :
    Follows (.mark '.' :: .word s :: ls) := by
  refine ⟨(hls.word hs).cons (by decide : '.' ∈ partMarks) fun l' hl' => ?_, by simp [Lexeme.isSeparator]⟩
  cases hl'
  exact ⟨Or.inl rfl, fun _ => ⟨s, rfl⟩, by simp⟩

/-- A word between spaces. -/
theorem Follows.spaced {s : String} (hls : Apart ls) (hs : Text.isIdentifier s = true) :
    Follows (.space :: .word s :: .space :: ls) :=
  .space ((Follows.space hls).word hs)

end

end TypedOperations.Source
