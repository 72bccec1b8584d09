import TypedOperations.Source.Reader

/-!
# Expressions of modules

Expressions, the parameters of functions and the arguments of calls. An expression is read for its shape, which says whether
values can be assigned to it: operators take their operands at any precedence, since that changes no decision here.

Every reader takes the judge of expressions in format strings, and a bound on the depth of its calls.
-/

namespace TypedOperations.Source

/-- What an expression is as far as assignment is concerned. -/
inductive Shape where
  | name
  /-- An attribute or an item. -/
  | access
  | tuple (items : List Shape)
  | list (items : List Shape)
  | star (s : Shape)
  /-- An expression in parentheses. -/
  | group (s : Shape)
  | other

namespace Shape

/-- The shape is one with a star. -/
def isStar : Shape → Bool
  | .star _ => true
  | _ => false

mutual

/-- Values can be assigned to the shape. -/
def isTarget : Shape → Bool
  | .name => true
  | .access => true
  | .tuple items => areTargets items
  | .list items => areTargets items
  | .star s => !s.isStar && s.isTarget
  | .group s => !s.isStar && s.isTarget
  | .other => false

/-- Values can be assigned to all of the shapes. -/
def areTargets : List Shape → Bool
  | [] => true
  | s :: rest => s.isTarget && areTargets rest

end

/-- One value can be assigned to the shape. -/
def isSingle : Shape → Bool
  | .name => true
  | .access => true
  | .group s => s.isSingle
  | _ => false

mutual

/-- What has the shape can be deleted. -/
def isDeletable : Shape → Bool
  | .name => true
  | .access => true
  | .tuple items => areDeletable items
  | .list items => areDeletable items
  | .star _ => false
  | .group s => s.isDeletable
  | .other => false

/-- What has the shapes can be deleted. -/
def areDeletable : List Shape → Bool
  | [] => true
  | s :: rest => s.isDeletable && areDeletable rest

end

end Shape

/-- The operators between operands of arithmetic. -/
def arithmeticMarks : List String :=
  ["|", "^", "&", "<<", ">>", "+", "-", "*", "/", "//", "%", "@", "**"]

/-- The marks that compare. -/
def comparisonMarks : List String := ["==", "!=", "<=", "<", ">=", ">"]

/-- The constants that are words. -/
def constants : List String := ["True", "False", "None"]

/-- What a list of arguments has held so far. -/
inductive ArgumentPhase where
  | plain
  /-- A named argument came; only named ones and those with a star may follow. -/
  | named
  /-- A mapping came; only named ones and mappings may follow. -/
  | mapping
deriving DecidableEq, Repr

/-- What a list of parameters has held so far. -/
structure ParameterPhase where
  any : Bool := false
  slash : Bool := false
  default : Bool := false
  star : Bool := false
  /-- A star without a name came, and a parameter must follow it. -/
  bare : Bool := false

namespace Reader

/-- Takes an operator that compares if one comes next. -/
def comparisonMark : Reader Bool := do
  match ← next? with
  | some (.mark _) => acceptsMarkOf comparisonMarks
  | some (.word "in") =>
    skip
    return true
  | some (.word "is") =>
    skip
    let _ ← acceptsWord "not"
    return true
  | some (.word "not") =>
    if (← second?) == some (.word "in") then
      skip
      skip
      return true
    else return false
  | _ => return false

/-- A name with the sign that binds it to a value inside an expression comes next. -/
def seesBinding : Reader Bool :=
  return isName (← next?) && (← second?) == some (.mark ":=")

/-- A name with an equals sign comes next. -/
def seesNamedArgument : Reader Bool :=
  return isName (← next?) && (← second?) == some (.mark "=")

/-- The clauses of a comprehension come next. -/
def seesClauses : Reader Bool :=
  return (← seesWord "for") || ((← seesWord "async") && (← second?) == some (.word "for"))

mutual

/-- An expression without a star, and without a comma outside brackets. -/
def expression (embedded : List Char → Bool) : Nat → Reader Shape
  | 0 => fail
  | fuel + 1 => do
    if ← acceptsWord "lambda" then
      parameters embedded false ":" {} fuel
      mark ":"
      let _ ← expression embedded fuel
      return .other
    else
      let s ← disjunction embedded fuel
      if ← acceptsWord "if" then
        let _ ← disjunction embedded fuel
        word "else"
        let _ ← expression embedded fuel
        return .other
      else return s

/-- Comparisons joined by words, each of which may be negated. -/
def disjunction (embedded : List Char → Bool) : Nat → Reader Shape
  | 0 => fail
  | fuel + 1 => do
    let s ← inversion embedded fuel
    if ← acceptsWordOf ["or", "and"] then
      let _ ← disjunction embedded fuel
      return .other
    else return s

/-- A comparison that may be negated. -/
def inversion (embedded : List Char → Bool) : Nat → Reader Shape
  | 0 => fail
  | fuel + 1 => do
    if ← acceptsWord "not" then
      let _ ← inversion embedded fuel
      return .other
    else comparison embedded fuel

/-- Arithmetic joined by operators that compare. -/
def comparison (embedded : List Char → Bool) : Nat → Reader Shape
  | 0 => fail
  | fuel + 1 => do
    let s ← arithmetic embedded fuel
    if ← comparisonMark then
      let _ ← comparison embedded fuel
      return .other
    else return s

/-- Operands joined by operators of arithmetic. -/
def arithmetic (embedded : List Char → Bool) : Nat → Reader Shape
  | 0 => fail
  | fuel + 1 => do
    let s ← operand embedded fuel
    if ← acceptsMarkOf arithmeticMarks then
      let _ ← arithmetic embedded fuel
      return .other
    else return s

/-- An operand with the signs before it. -/
def operand (embedded : List Char → Bool) : Nat → Reader Shape
  | 0 => fail
  | fuel + 1 => do
    if ← acceptsMarkOf ["+", "-", "~"] then
      let _ ← operand embedded fuel
      return .other
    else if ← acceptsWord "await" then
      let _ ← primary embedded fuel
      return .other
    else primary embedded fuel

/-- An atom with the attributes, calls and items after it. -/
def primary (embedded : List Char → Bool) : Nat → Reader Shape
  | 0 => fail
  | fuel + 1 => do
    let s ← atom embedded fuel
    trailers embedded s fuel

/-- The attributes, calls and items after something of a shape. -/
def trailers (embedded : List Char → Bool) (s : Shape) : Nat → Reader Shape
  | 0 => fail
  | fuel + 1 => do
    if ← acceptsMark "." then
      name
      trailers embedded .access fuel
    else if ← acceptsMark "(" then
      arguments embedded true true .plain fuel
      trailers embedded .other fuel
    else if ← acceptsMark "[" then
      slices embedded fuel
      trailers embedded .access fuel
    else return s

/-- A name, a constant, a number, strings, or what stands in brackets. -/
def atom (embedded : List Char → Bool) : Nat → Reader Shape
  | 0 => fail
  | fuel + 1 => do
    match ← next? with
    | some (.word w) =>
      if constants.contains w then
        skip
        return .other
      else
        name
        return .name
    | some (.number _) =>
      skip
      return .other
    | some (.string _) =>
      stringGroup embedded
      return .other
    | some (.mark m) =>
      skip
      if m == "..." then return .other
      else if m == "(" then parenthesized embedded fuel
      else if m == "[" then bracketed embedded fuel
      else if m == "\x7b" then braced embedded fuel
      else fail
    | _ => fail

/-- What follows an opening parenthesis that is no call. -/
def parenthesized (embedded : List Char → Bool) : Nat → Reader Shape
  | 0 => fail
  | fuel + 1 => do
    if ← acceptsMark ")" then return .tuple []
    else if ← seesWord "yield" then
      yielded embedded fuel
      mark ")"
      return .group .other
    else
      let s ← element embedded fuel
      if ← seesClauses then
        demand !s.isStar
        clauses embedded fuel
        mark ")"
        return .other
      else if ← acceptsMark "," then return .tuple (s :: (← elements embedded ")" fuel))
      else
        mark ")"
        demand !s.isStar
        return .group s

/-- What follows an opening bracket that is no item. -/
def bracketed (embedded : List Char → Bool) : Nat → Reader Shape
  | 0 => fail
  | fuel + 1 => do
    if ← acceptsMark "]" then return .list []
    else
      let s ← element embedded fuel
      if ← seesClauses then
        demand !s.isStar
        clauses embedded fuel
        mark "]"
        return .other
      else if ← acceptsMark "," then return .list (s :: (← elements embedded "]" fuel))
      else
        mark "]"
        return .list [s]

/-- What follows an opening brace: the entries of a mapping or the elements of a set. -/
def braced (embedded : List Char → Bool) : Nat → Reader Shape
  | 0 => fail
  | fuel + 1 => do
    if ← acceptsMark "\x7d" then return .other
    else if ← acceptsMark "**" then
      let _ ← arithmetic embedded fuel
      entries embedded fuel
      return .other
    else
      let bound ← seesBinding
      let s ← element embedded fuel
      if (← seesMark ":") && !bound && !s.isStar then
        skip
        let _ ← expression embedded fuel
        if ← seesClauses then
          clauses embedded fuel
          mark "\x7d"
        else entries embedded fuel
        return .other
      else if ← seesClauses then
        demand !s.isStar
        clauses embedded fuel
        mark "\x7d"
        return .other
      else if ← acceptsMark "," then
        let _ ← elements embedded "\x7d" fuel
        return .other
      else
        mark "\x7d"
        return .other

/-- The entries of a mapping after one of them, with the closing brace. -/
def entries (embedded : List Char → Bool) : Nat → Reader Unit
  | 0 => fail
  | fuel + 1 => do
    if ← acceptsMark "\x7d" then return ()
    else
      mark ","
      if ← acceptsMark "\x7d" then return ()
      else if ← acceptsMark "**" then
        let _ ← arithmetic embedded fuel
        entries embedded fuel
      else
        let _ ← expression embedded fuel
        mark ":"
        let _ ← expression embedded fuel
        entries embedded fuel

/-- An element of a display: an expression, one with a star, or one bound to a name. -/
def element (embedded : List Char → Bool) : Nat → Reader Shape
  | 0 => fail
  | fuel + 1 => do
    if ← acceptsMark "*" then return .star (← arithmetic embedded fuel)
    else named embedded fuel

/-- The elements of a display after a comma, with the bracket that closes it. -/
def elements (embedded : List Char → Bool) (close : String) : Nat → Reader (List Shape)
  | 0 => fail
  | fuel + 1 => do
    if ← acceptsMark close then return []
    else
      let s ← element embedded fuel
      if ← acceptsMark close then return [s]
      else
        mark ","
        return s :: (← elements embedded close fuel)

/-- An expression that may be bound to a name. -/
def named (embedded : List Char → Bool) : Nat → Reader Shape
  | 0 => fail
  | fuel + 1 => do
    if ← seesBinding then
      skip
      skip
      let _ ← expression embedded fuel
      return .other
    else expression embedded fuel

/-- Expressions with or without stars that commas separate, as far as one starts. -/
def starExpressions (embedded : List Char → Bool) : Nat → Reader Shape
  | 0 => fail
  | fuel + 1 => do
    let s ← starExpression embedded fuel
    if ← seesMark "," then return .tuple (s :: (← moreExpressions embedded fuel))
    else return s

/-- An expression that may have a star. -/
def starExpression (embedded : List Char → Bool) : Nat → Reader Shape
  | 0 => fail
  | fuel + 1 => do
    if ← acceptsMark "*" then return .star (← arithmetic embedded fuel)
    else expression embedded fuel

/-- The expressions after the first, each after a comma; a last comma may follow them. -/
def moreExpressions (embedded : List Char → Bool) : Nat → Reader (List Shape)
  | 0 => fail
  | fuel + 1 => do
    if ← acceptsMark "," then
      match ← attempt (starExpression embedded fuel) with
      | some s => return s :: (← moreExpressions embedded fuel)
      | none => return []
    else return []

/-- A word that yields, and what it yields. -/
def yielded (embedded : List Char → Bool) : Nat → Reader Unit
  | 0 => fail
  | fuel + 1 => do
    word "yield"
    if ← acceptsWord "from" then
      let _ ← expression embedded fuel
    else
      let _ ← attempt (starExpressions embedded fuel)

/-- The clauses of a comprehension. -/
def clauses (embedded : List Char → Bool) : Nat → Reader Unit
  | 0 => fail
  | fuel + 1 => do
    let _ ← acceptsWord "async"
    word "for"
    targets embedded fuel
    word "in"
    let _ ← disjunction embedded fuel
    conditions embedded fuel
    if ← seesClauses then clauses embedded fuel

/-- The conditions of a clause. -/
def conditions (embedded : List Char → Bool) : Nat → Reader Unit
  | 0 => fail
  | fuel + 1 => do
    if ← acceptsWord "if" then
      let _ ← disjunction embedded fuel
      conditions embedded fuel

/-- Targets that commas separate, as loops have them. -/
def targets (embedded : List Char → Bool) : Nat → Reader Unit
  | 0 => fail
  | fuel + 1 => do
    target embedded fuel
    if ← acceptsMark "," then
      if !(← seesWord "in") then targets embedded fuel

/-- A target, which may have a star. -/
def target (embedded : List Char → Bool) : Nat → Reader Unit
  | 0 => fail
  | fuel + 1 => do
    let _ ← acceptsMark "*"
    let s ← primary embedded fuel
    demand s.isTarget

/-- The items between brackets after an expression, with the closing bracket. -/
def slices (embedded : List Char → Bool) : Nat → Reader Unit
  | 0 => fail
  | fuel + 1 => do
    slice embedded fuel
    if ← acceptsMark "]" then return ()
    else
      mark ","
      if ← acceptsMark "]" then return ()
      else slices embedded fuel

/-- An expression between brackets after another: an item, a range or one with a star. -/
def slice (embedded : List Char → Bool) : Nat → Reader Unit
  | 0 => fail
  | fuel + 1 => do
    if ← acceptsMark "*" then
      let _ ← expression embedded fuel
    else if ← acceptsMark ":" then rangeEnd embedded fuel
    else
      let bound ← seesBinding
      let _ ← named embedded fuel
      if ← seesMark ":" then
        demand !bound
        skip
        rangeEnd embedded fuel

/-- A range after its first colon. -/
def rangeEnd (embedded : List Char → Bool) : Nat → Reader Unit
  | 0 => fail
  | fuel + 1 => do
    let _ ← attempt (expression embedded fuel)
    if ← acceptsMark ":" then
      let _ ← attempt (expression embedded fuel)

/-- The arguments of a call, with the closing parenthesis. `first` says that none came before, and `generator` that a
comprehension may stand alone. -/
def arguments (embedded : List Char → Bool) (first generator : Bool) (phase : ArgumentPhase) : Nat → Reader Unit
  | 0 => fail
  | fuel + 1 => do
    if ← acceptsMark ")" then return ()
    else
      let phase ← argument embedded phase fuel
      if first && generator && phase == .plain && (← seesClauses) then
        clauses embedded fuel
        mark ")"
      else if ← acceptsMark ")" then return ()
      else
        mark ","
        arguments embedded false generator phase fuel

/-- An argument of a call, and what has come after it. -/
def argument (embedded : List Char → Bool) (phase : ArgumentPhase) : Nat → Reader ArgumentPhase
  | 0 => fail
  | fuel + 1 => do
    if ← acceptsMark "**" then
      let _ ← expression embedded fuel
      return .mapping
    else if ← acceptsMark "*" then
      demand (phase != .mapping)
      let _ ← expression embedded fuel
      demand !(← seesClauses)
      return phase
    else if ← seesNamedArgument then
      skip
      skip
      let _ ← expression embedded fuel
      return if phase == .mapping then .mapping else .named
    else
      demand (phase == .plain)
      let _ ← named embedded fuel
      return .plain

/-- The parameters of a function up to the mark `close`, which is left. They may have annotations if `annotated`. -/
def parameters (embedded : List Char → Bool) (annotated : Bool) (close : String) (phase : ParameterPhase) :
    Nat → Reader Unit
  | 0 => fail
  | fuel + 1 => do
    if ← seesMark close then demand !phase.bare
    else if ← acceptsMark "**" then
      demand !phase.bare
      name
      hint embedded annotated false fuel
      let _ ← acceptsMark ","
      demand (← seesMark close)
    else
      let phase ← parameter embedded annotated phase fuel
      if ← acceptsMark "," then parameters embedded annotated close phase fuel
      else
        demand !phase.bare
        demand (← seesMark close)

/-- A parameter, and what has come after it. -/
def parameter (embedded : List Char → Bool) (annotated : Bool) (phase : ParameterPhase) : Nat → Reader ParameterPhase
  | 0 => fail
  | fuel + 1 => do
    if ← acceptsMark "/" then
      demand (phase.any && !phase.slash && !phase.star)
      return { phase with slash := true }
    else if ← acceptsMark "*" then
      demand !phase.star
      if ← seesMark "," then return { phase with star := true, bare := true }
      else
        name
        hint embedded annotated true fuel
        return { phase with star := true }
    else
      name
      hint embedded annotated false fuel
      if ← acceptsMark "=" then
        let _ ← expression embedded fuel
        return { phase with any := true, bare := false, default := true }
      else
        demand (phase.star || !phase.default)
        return { phase with any := true, bare := false }

/-- The annotation of a parameter, if it has one; it may have a star if `starred`. -/
def hint (embedded : List Char → Bool) (annotated starred : Bool) : Nat → Reader Unit
  | 0 => fail
  | fuel + 1 => do
    if !annotated then return ()
    else if ← acceptsMark ":" then
      if starred then
        let _ ← starExpression embedded fuel
      else
        let _ ← expression embedded fuel

end

end Reader

end TypedOperations.Source
