import TypedOperations.Source.Pattern

/-!
# Statements of modules

The statements of a module, and the decision whether a text can be read as one: `isReadable`. Only the form of the text
counts: what names stand for, and where a statement may stand among others, is not looked at.
-/

namespace TypedOperations.Source

/-- The marks that assign the result of an operator. -/
def augmentedMarks : List String :=
  ["+=", "-=", "*=", "@=", "/=", "%=", "&=", "|=", "^=", "<<=", ">>=", "**=", "//="]

namespace Reader

/-! ## Simple statements -/

/-- The simple statement ends here. -/
def seesEnd : Reader Bool :=
  return (← sees .newline) || (← seesMark ";")

/-- What a value is made from: expressions, or what is yielded. -/
def value (embedded : List Char → Bool) (fuel : Nat) : Reader Unit := do
  if ← seesWord "yield" then yielded embedded fuel
  else
    let _ ← starExpressions embedded fuel

/-- The values after an equals sign; all but the last of them are assigned to. -/
def assigned (embedded : List Char → Bool) : Nat → Reader Unit
  | 0 => fail
  | fuel + 1 => do
    if ← seesWord "yield" then yielded embedded fuel
    else
      let s ← starExpressions embedded fuel
      if ← acceptsMark "=" then
        demand s.isTarget
        assigned embedded fuel

/-- An expression that stands alone or is assigned to. -/
def assignment (embedded : List Char → Bool) (fuel : Nat) : Reader Unit := do
  if ← seesWord "yield" then yielded embedded fuel
  else
    let s ← starExpressions embedded fuel
    if ← acceptsMark ":" then
      demand s.isSingle
      let _ ← expression embedded fuel
      if ← acceptsMark "=" then value embedded fuel
    else if ← acceptsMark "=" then
      demand s.isTarget
      assigned embedded fuel
    else if ← acceptsMarkOf augmentedMarks then
      demand s.isSingle
      value embedded fuel

/-- Takes names that commas separate. -/
def names : Nat → Reader Unit
  | 0 => fail
  | fuel + 1 => do
    name
    if ← acceptsMark "," then names fuel

/-- Takes another name for what is imported, if there is one. -/
def rename : Reader Unit := do
  if ← acceptsWord "as" then name

/-- Takes imported modules that commas separate. -/
def importedModules : Nat → Reader Unit
  | 0 => fail
  | fuel + 1 => do
    dotted (fuel + 1)
    rename
    if ← acceptsMark "," then importedModules fuel

/-- Takes imported names that commas separate; a comma may end them if they are `enclosed` in parentheses. -/
def importedNames (enclosed : Bool) : Nat → Reader Unit
  | 0 => fail
  | fuel + 1 => do
    name
    rename
    if ← acceptsMark "," then
      if !(enclosed && (← seesMark ")")) then importedNames enclosed fuel

/-- Takes the points before the module that names are imported from, and says whether there are any. -/
def leadingPoints : Nat → Reader Bool
  | 0 => return false
  | fuel + 1 => do
    if ← acceptsMarkOf [".", "..."] then
      let _ ← leadingPoints fuel
      return true
    else return false

/-- An import from a module, after its first word. -/
def importFrom (fuel : Nat) : Reader Unit := do
  let relative ← leadingPoints fuel
  if !(relative && (← seesWord "import")) then dotted fuel
  word "import"
  if ← acceptsMark "*" then return ()
  else if ← acceptsMark "(" then
    importedNames true fuel
    mark ")"
  else importedNames false fuel

/-- A statement without a block. -/
def simpleStatement (embedded : List Char → Bool) (fuel : Nat) : Reader Unit := do
  if ← acceptsWordOf ["pass", "break", "continue"] then return ()
  else if ← acceptsWord "return" then
    if !(← seesEnd) then
      let _ ← starExpressions embedded fuel
  else if ← acceptsWord "raise" then
    if !(← seesEnd) then
      let _ ← expression embedded fuel
      if ← acceptsWord "from" then
        let _ ← expression embedded fuel
  else if ← acceptsWordOf ["global", "nonlocal"] then names fuel
  else if ← acceptsWord "del" then
    let s ← starExpressions embedded fuel
    demand s.isDeletable
  else if ← acceptsWord "assert" then
    let _ ← expression embedded fuel
    if ← acceptsMark "," then
      let _ ← expression embedded fuel
  else if ← acceptsWord "import" then importedModules fuel
  else if ← acceptsWord "from" then importFrom fuel
  else assignment embedded fuel

/-- The statements of a line. -/
def simpleStatements (embedded : List Char → Bool) : Nat → Reader Unit
  | 0 => fail
  | fuel + 1 => do
    simpleStatement embedded fuel
    if ← acceptsMark ";" then
      if !(← accepts .newline) then simpleStatements embedded fuel
    else expects .newline

/-! ## Statements with blocks -/

/-- A context that a block runs in, and the target that it is assigned to. -/
def contextItem (embedded : List Char → Bool) (fuel : Nat) : Reader Unit := do
  let _ ← expression embedded fuel
  if ← acceptsWord "as" then target embedded fuel

/-- Contexts that commas separate; a comma may end them if they are `enclosed` in parentheses. -/
def contextItems (embedded : List Char → Bool) (enclosed : Bool) : Nat → Reader Unit
  | 0 => fail
  | fuel + 1 => do
    contextItem embedded fuel
    if ← acceptsMark "," then
      if !(enclosed && (← seesMark ")")) then contextItems embedded enclosed fuel

/-- The contexts of a block, up to its colon: in parentheses if they can be read so. -/
def contexts (embedded : List Char → Bool) (fuel : Nat) : Reader Unit :=
  orElse
    (do
      mark "("
      contextItems embedded true fuel
      mark ")"
      mark ":")
    (do
      contextItems embedded false fuel
      mark ":")

/-- The value that cases are matched with. -/
def subject (embedded : List Char → Bool) (fuel : Nat) : Reader Unit := do
  let s ← element embedded fuel
  if ← acceptsMark "," then subjects fuel
  else demand !s.isStar
where
  /-- The values after a comma. -/
  subjects : Nat → Reader Unit
    | 0 => fail
    | fuel + 1 => do
      if ← seesMark ":" then return ()
      else
        let _ ← element embedded fuel
        if ← acceptsMark "," then subjects fuel

/-- The first line of a statement that matches cases, which can be told from an expression only at its end. -/
def matchLine (embedded : List Char → Bool) (fuel : Nat) : Reader Unit := do
  word "match"
  subject embedded fuel
  mark ":"
  expects .newline
  expects .indent

/-- The words before each decorated definition, each on a line of its own. -/
def decorators (embedded : List Char → Bool) : Nat → Reader Unit
  | 0 => fail
  | fuel + 1 => do
    if ← acceptsMark "@" then
      let _ ← named embedded fuel
      expects .newline
      decorators embedded fuel

mutual

/-- A statement. -/
def statement (embedded : List Char → Bool) : Nat → Reader Unit
  | 0 => fail
  | fuel + 1 => do
    match ← next? with
    | some (.word w) =>
      if w == "if" then
        skip
        branch embedded fuel
      else if w == "while" then
        skip
        let _ ← named embedded fuel
        mark ":"
        block embedded fuel
        otherwise embedded fuel
      else if w == "for" then
        skip
        loop embedded fuel
      else if w == "try" then
        skip
        guarded embedded fuel
      else if w == "with" then
        skip
        contexts embedded fuel
        block embedded fuel
      else if w == "def" || w == "class" then definition embedded fuel
      else if w == "async" then
        skip
        if ← acceptsWord "for" then loop embedded fuel
        else if ← acceptsWord "with" then
          contexts embedded fuel
          block embedded fuel
        else
          demand (← seesWord "def")
          definition embedded fuel
      else if w == "match" then
        match ← attempt (matchLine embedded fuel) with
        | some _ =>
          case embedded fuel
          expects .dedent
        | none => simpleStatements embedded fuel
      else simpleStatements embedded fuel
    | some (.mark "@") =>
      decorators embedded fuel
      if ← acceptsWord "async" then demand (← seesWord "def")
      definition embedded fuel
    | _ => simpleStatements embedded fuel

/-- The statements of a block, up to its end. -/
def statements (embedded : List Char → Bool) : Nat → Reader Unit
  | 0 => fail
  | fuel + 1 => do
    statement embedded fuel
    if ← accepts .dedent then return ()
    else statements embedded fuel

/-- A block: the rest of a line, or indented lines. -/
def block (embedded : List Char → Bool) : Nat → Reader Unit
  | 0 => fail
  | fuel + 1 => do
    if ← accepts .newline then
      expects .indent
      statements embedded fuel
    else simpleStatements embedded fuel

/-- The block that is left when no condition holds, if there is one. -/
def otherwise (embedded : List Char → Bool) : Nat → Reader Unit
  | 0 => fail
  | fuel + 1 => do
    if ← acceptsWord "else" then
      mark ":"
      block embedded fuel

/-- A condition with its block, and the branches after it. -/
def branch (embedded : List Char → Bool) : Nat → Reader Unit
  | 0 => fail
  | fuel + 1 => do
    let _ ← named embedded fuel
    mark ":"
    block embedded fuel
    if ← acceptsWord "elif" then branch embedded fuel
    else otherwise embedded fuel

/-- A loop over values, after its first word. -/
def loop (embedded : List Char → Bool) : Nat → Reader Unit
  | 0 => fail
  | fuel + 1 => do
    targets embedded fuel
    word "in"
    let _ ← starExpressions embedded fuel
    mark ":"
    block embedded fuel
    otherwise embedded fuel

/-- A block whose failures are handled. -/
def guarded (embedded : List Char → Bool) : Nat → Reader Unit
  | 0 => fail
  | fuel + 1 => do
    mark ":"
    block embedded fuel
    if ← seesWord "except" then
      handlers embedded ((← second?) == some (.mark "*")) fuel
      otherwise embedded fuel
      cleanup embedded fuel
    else
      demand (← seesWord "finally")
      cleanup embedded fuel

/-- The handlers of failures, all of groups of them or none. -/
def handlers (embedded : List Char → Bool) (groups : Bool) : Nat → Reader Unit
  | 0 => fail
  | fuel + 1 => do
    if ← acceptsWord "except" then
      demand ((← acceptsMark "*") == groups)
      if groups || !(← seesMark ":") then
        let _ ← expression embedded fuel
        rename
      mark ":"
      block embedded fuel
      handlers embedded groups fuel

/-- The block that runs at the end in any case, if there is one. -/
def cleanup (embedded : List Char → Bool) : Nat → Reader Unit
  | 0 => fail
  | fuel + 1 => do
    if ← acceptsWord "finally" then
      mark ":"
      block embedded fuel

/-- The definition of a function or a class. -/
def definition (embedded : List Char → Bool) : Nat → Reader Unit
  | 0 => fail
  | fuel + 1 => do
    if ← acceptsWord "def" then
      name
      mark "("
      parameters embedded true ")" {} fuel
      mark ")"
      if ← acceptsMark "->" then
        let _ ← expression embedded fuel
      mark ":"
      block embedded fuel
    else
      word "class"
      name
      if ← acceptsMark "(" then arguments embedded true false .plain fuel
      mark ":"
      block embedded fuel

/-- The cases of a statement, one or more. -/
def case (embedded : List Char → Bool) : Nat → Reader Unit
  | 0 => fail
  | fuel + 1 => do
    word "case"
    casePattern embedded fuel
    if ← acceptsWord "if" then
      let _ ← named embedded fuel
    mark ":"
    block embedded fuel
    if ← seesWord "case" then case embedded fuel

end

/-- The statements of a module. -/
def moduleText (embedded : List Char → Bool) (depth : Nat) : Nat → Reader Unit
  | 0 => fail
  | fuel + 1 => do
    if (← next?).isSome then
      statement embedded depth
      moduleText embedded depth fuel

end Reader

/-- A bound on the depth of readers over so many tokens: each takes a token at least once in so many calls. -/
def depthFor (count : Nat) : Nat := 20 * (count + 2)

/-- The text can be read as an expression in a format string; `fuel` bounds how deep format strings nest. -/
def isEmbeddable : Nat → List Char → Bool
  | 0, _ => false
  | fuel + 1, text =>
    match tokens (String.ofList ('(' :: text ++ [')'])) with
    | none => false
    | some ts =>
      match Reader.starExpressions (isEmbeddable fuel) (depthFor ts.length) ts with
      | some (_, rest) => rest == [.newline]
      | none => false

/-- The text can be read as a module. -/
def isReadable (text : String) : Bool :=
  match tokens text with
  | none => false
  | some ts => (Reader.moduleText (isEmbeddable text.length) (depthFor ts.length) (ts.length + 1) ts).isSome

end TypedOperations.Source
