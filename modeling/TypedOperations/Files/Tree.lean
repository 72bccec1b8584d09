import TypedOperations.Entries
import TypedOperations.Text.Affix
import TypedOperations.Text.Blank

/-!
# Files

The part of a file system that a run can see: files with their contents and directories, by the parts of their paths. A
path is relative to a working directory unless it starts with a slash.
-/

namespace TypedOperations

/-- The contents of a file: text, or an archive of files. -/
inductive FileContent where
  | text (s : String)
  | zip (files : Entries String)
  | gzippedTar (files : Entries String)
deriving DecidableEq, Repr, Inhabited

/-- The parts of a path from the root. -/
abbrev PathParts := List String

/-- Files and directories. -/
structure FileTree where
  files : List (PathParts × FileContent)
  directories : List PathParts
deriving Inhabited

namespace Path

/-- The texts between slashes. -/
def split (path : String) : List String :=
  (Text.splitOn '/' path.toList).map String.ofList

/-- One part further: no part or a dot stays in the directory, two dots go to the one above. -/
def step (place : PathParts) (part : String) : PathParts :=
  if part == "" || part == "." then place else if part == ".." then place.dropLast else place ++ [part]

/-- Where a path starts that is read in a working directory. -/
def start (working : PathParts) (path : String) : PathParts :=
  if Text.beginsWith path "/" then [] else working

/-- The parts of a path that is read in a working directory, whether there is anything or not. -/
def resolve (working : PathParts) (path : String) : PathParts :=
  (split path).foldl step (start working path)

/-- The path of parts from the root. -/
def display (parts : PathParts) : String :=
  "/" ++ String.intercalate "/" parts

/-- A path below another one. -/
def join (path below : String) : String :=
  if path == "" || Text.endsIn path "/" then path ++ below else path ++ "/" ++ below

/-- The last part of a path. -/
def name (parts : PathParts) : String :=
  parts.getLastD ""

/-- The ending of a file name from its last dot, which neither starts nor ends the name. -/
def suffix (name : String) : String :=
  let reversed := name.toList.reverse
  let ending := reversed.takeWhile (· != '.')
  match reversed.drop ending.length with
  | _ :: _ :: _ => if ending.isEmpty then "" else String.ofList ('.' :: ending.reverse)
  | _ => ""

end Path

namespace FileTree

/-- The file at a path. -/
def file? (t : FileTree) (path : PathParts) : Option FileContent :=
  (t.files.find? (·.1 == path)).map (·.2)

/-- There is a file at a path. -/
def isFile (t : FileTree) (path : PathParts) : Bool :=
  (t.file? path).isSome

/-- There is a directory at a path: one that is named, or one that something is in. -/
def isDirectory (t : FileTree) (path : PathParts) : Bool :=
  (t.directories.any path.isPrefixOf) || t.files.any fun f => path.isPrefixOf f.1 && path != f.1

/-- There is something at a path. -/
def hasPath (t : FileTree) (path : PathParts) : Bool :=
  t.isFile path || t.isDirectory path

/-- Where a path leads that is read in a working directory: only from a directory can it go on, and an empty path leads
nowhere. -/
def reach? (t : FileTree) (working : PathParts) (path : String) : Option PathParts :=
  if path == "" then none
  else
    (Path.split path).foldlM (fun place part => if t.isDirectory place then some (Path.step place part) else none)
      (Path.start working path)

/-- The file that a path leads to. -/
def fileAt? (t : FileTree) (working : PathParts) (path : String) : Option FileContent :=
  (t.reach? working path).bind t.file?

/-- A path leads to a directory. -/
def leadsToDirectory (t : FileTree) (working : PathParts) (path : String) : Bool :=
  (t.reach? working path).any t.isDirectory

/-- A path leads to something. -/
def leadsSomewhere (t : FileTree) (working : PathParts) (path : String) : Bool :=
  (t.reach? working path).any t.hasPath

/-- The tree with a file at a path, in place of the one that was there. -/
def put (t : FileTree) (path : PathParts) (content : FileContent) : FileTree :=
  { t with files := t.files.filter (·.1 != path) ++ [(path, content)] }

/-- The files below a directory, each with its path from there. -/
def below (t : FileTree) (path : PathParts) : List (PathParts × FileContent) :=
  (t.files.filter fun f => path.isPrefixOf f.1 && path != f.1).map fun f => (f.1.drop path.length, f.2)

/-- The file at a path, or the files below it whose names end in one of the endings, by path in the order of their
characters. -/
def collect (t : FileTree) (working : PathParts) (path : String) (endings : List String) : List (String × FileContent) :=
  match t.reach? working path with
  | none => []
  | some parts =>
    match t.file? parts with
    | some content => [(path, content)]
    | none =>
      let found := (t.below parts).filter fun f => endings.any fun e => Text.endsIn (Path.name f.1) e
      (found.map fun f => (Path.join path (String.intercalate "/" f.1), f.2)).mergeSort fun a b => !decide (b.1 < a.1)

end FileTree

end TypedOperations
