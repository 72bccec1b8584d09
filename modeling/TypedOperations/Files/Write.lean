import TypedOperations.Files.Tree

/-!
# Writing files

Files and directories are made in a tree of files, unless something keeps them from being made. A path is followed part by
part: only from a directory can it go on.
-/

namespace TypedOperations

/-- What keeps a file or a directory from being made. -/
inductive Obstacle where
  /-- Something stands where a directory is to be made. -/
  | taken
  /-- A part of the path above is a file. -/
  | fileAbove
  /-- There is a directory where a file is to be written. -/
  | directory
deriving DecidableEq, Repr, Inhabited

/-- Work on a tree of files that something may keep from being done; what was done before stays. -/
abbrev Making := ExceptT Obstacle (StateM FileTree)

namespace FileTree

/-- Where the parts of a path lead from the root: only from a directory can they go on. -/
def follow? (t : FileTree) (parts : List String) : Option PathParts :=
  parts.foldlM (fun place part => if t.isDirectory place then some (Path.step place part) else none) []

/-- There is something where the parts of a path lead. -/
def leads (t : FileTree) (parts : List String) : Bool :=
  (t.follow? parts).any t.hasPath

/-- The directory that the parts of a path lead to. -/
def directoryAt (t : FileTree) (parts : List String) : Except Obstacle PathParts :=
  match t.follow? parts with
  | some place => if t.isDirectory place then .ok place else .error .fileAbove
  | none => .error .fileAbove

end FileTree

namespace Making

/-- A directory is made, where `above` leads to a directory. -/
def directory (above : List String) (name : String) : Making Unit := do
  let t ← get
  let place := Path.step (← t.directoryAt above) name
  if t.hasPath place then throw .taken
  set { t with directories := place :: t.directories }

/-- The directories that the parts of a path lead through are made; the parts are given from the last one on. What stands in
the way of the last part counts, what is there already above it does not. -/
def directories : List String → Making Unit
  | [] => pure ()
  | name :: above => do
    if !(← get).leads above.reverse then
      tryCatch (directories above) fun e => if e == .taken then pure () else throw e
    if name != "." then directory above.reverse name

/-- The directories above something are made unless there is something. -/
def above (parts : List String) : Making Unit := do
  if !(← get).leads parts then directories parts.reverse

/-- A file is written where the parts of a path lead, in directories that are made if there are none. -/
def file (parts : List String) (text : String) : Making Unit := do
  above parts.dropLast
  let t ← get
  let place := Path.step (← t.directoryAt parts.dropLast) (parts.getLastD ".")
  if t.isDirectory place then throw .directory
  set (t.put place (.text text))

end Making

end TypedOperations
