import TypedOperations.Text.Affix

/-!
# Command-line arguments

The arguments of the command: options before the name of a subcommand, then the options of the subcommand in any order.
An option that takes a value takes the argument after it, whatever it looks like; long options also take it after an equals
sign, short ones right after their letter, and short options without a value can be written together.
-/

namespace TypedOperations.Command

/-- The settings of the command that generates a module. -/
structure Settings where
  schema : Option String := none
  documents : List String := []
  output : Option String := none
  wrapper : Option String := none
  passScalars : Bool := false
  scalarsPrefix : String := ""
  operationIds : Bool := false
  templateDir : Option String := none
  verbose : Bool := false
  help : Bool := false
deriving DecidableEq, Repr, Inhabited

/-- What the arguments ask for. -/
inductive Request where
  | version
  | help
  | generate (settings : Settings)
  /-- The arguments cannot be understood. -/
  | misused
deriving DecidableEq, Repr, Inhabited

/-- An option: one that takes a value, or a switch. -/
inductive Setting where
  | value (set : Settings → String → Settings)
  | switch (set : Settings → Settings)

/-- The options with long names. -/
def longOption? : String → Option Setting
  | "--schema" => some (.value fun s v => { s with schema := some v })
  | "--documents" => some (.value fun s v => { s with documents := s.documents ++ [v] })
  | "--output" => some (.value fun s v => { s with output := some v })
  | "--namespace" => some (.value fun s v => { s with wrapper := some v })
  | "--passthrough-custom-scalars" => some (.switch fun s => { s with passScalars := true })
  | "--custom-scalars-prefix" => some (.value fun s v => { s with scalarsPrefix := v })
  | "--operation-ids" => some (.switch fun s => { s with operationIds := true })
  | "--template-dir" => some (.value fun s v => { s with templateDir := some v })
  | "--verbose" => some (.switch fun s => { s with verbose := true })
  | "--help" => some (.switch fun s => { s with help := true })
  | _ => none

/-- The options with one letter. -/
def shortOption? : Char → Option Setting
  | 's' => longOption? "--schema"
  | 'd' => longOption? "--documents"
  | 'o' => longOption? "--output"
  | 'v' => longOption? "--verbose"
  | _ => none

/-- The text before the first equals sign, and the text after it if there is one. -/
def splitValue (arg : String) : String × Option String :=
  let cs := arg.toList
  let name := cs.takeWhile (· != '=')
  match cs.drop name.length with
  | [] => (arg, none)
  | _ :: value => (String.ofList name, some (String.ofList value))

/-- The settings after the letters of an argument with short options; `rest` are the arguments after it. -/
def shortOptions (s : Settings) (rest : List String) : List Char → Option (Settings × List String)
  | [] => some (s, rest)
  | c :: more =>
    match shortOption? c with
    | none => none
    | some (.switch set) => shortOptions (set s) rest more
    | some (.value set) =>
      match more, rest with
      | [], [] => none
      | [], v :: rest => some (set s v, rest)
      | more, rest => some (set s (String.ofList more), rest)

/-- The settings after an argument that is an option; `rest` are the arguments after it. -/
def oneOption (s : Settings) (arg : String) (rest : List String) : Option (Settings × List String) :=
  let (name, value) := splitValue arg
  match longOption? name, value, rest with
  | some (.switch set), none, rest => some (set s, rest)
  | some (.switch _), some _, _ => none
  | some (.value set), some v, rest => some (set s v, rest)
  | some (.value set), none, v :: rest => some (set s v, rest)
  | some (.value _), none, [] => none
  | none, _, rest => if Text.beginsWith arg "--" then none else shortOptions s rest (arg.toList.drop 1)

/-- The settings after all arguments, and whether there are arguments that are not options; `fuel` bounds their number. -/
def allOptions : Nat → Settings → Bool → List String → Option (Settings × Bool)
  | 0, _, _, _ => none
  | _ + 1, s, extra, [] => some (s, extra)
  | fuel + 1, s, extra, arg :: rest =>
    if arg == "--" then some (s, extra || !rest.isEmpty)
    else if Text.beginsWith arg "-" && arg != "-" then do
      let (s, rest) ← oneOption s arg rest
      allOptions fuel s extra rest
    else allOptions fuel s true rest

/-- The settings of a subcommand: nothing but options is given, and those that must be given are. -/
def subcommand (args : List String) : Request :=
  match allOptions (args.length + 1) {} false args with
  | none => .misused
  | some (s, extra) =>
    if s.help then .help
    else if extra || s.schema.isNone || s.documents.isEmpty || s.output.isNone then .misused
    else .generate s

/-- What the arguments after the options of the command itself ask for. -/
def command (args : List String) : Request :=
  match args with
  | "generate" :: rest => subcommand rest
  | _ => .misused

/-- What arguments ask for. -/
def Request.ofArguments (args : List String) : Request :=
  let leading := args.takeWhile fun a => Text.beginsWith a "-" && a != "-" && a != "--"
  let rest := args.drop leading.length
  if leading.all fun a => a == "--version" || a == "--help" then
    match leading with
    | [] => command (if rest.head? == some "--" then rest.drop 1 else rest)
    | first :: _ => if first == "--version" then .version else .help
  else .misused

end TypedOperations.Command
