import TypedOperations.Archive.Container
import TypedOperations.Command.Generate

/-!
# The program

The files that the arguments name are read, the command is run on them, and what it says and writes is said and written.
-/

namespace TypedOperations.Disk

/-- The contents of a file by its name and its bytes; nothing if it should be text and is not. -/
def contentOf (name : String) (bytes : List UInt8) : Option FileContent :=
  if Command.isArchiveName name then
    match Archive.unzip bytes, Archive.untarGzipped bytes with
    | some files, _ => some (.zip files)
    | none, some files => some (.gzippedTar files)
    | none, none => some (.text "")
  else (Archive.textOf? bytes).map .text

/-- The names of files that can matter below a directory. -/
def matters (name : String) : Bool :=
  (schemaEndings ++ documentEndings ++ ["file_header.py.j2"]).any (Text.endsIn name)

/-- What is at a path: a file, or a directory with what matters below it. -/
partial def look (path : String) (parts : PathParts) (always : Bool) (t : FileTree) : IO FileTree := do
  let here ← IO.currentDir
  let place := here / path
  if ← place.isDir then
    let mut t := { t with directories := parts :: t.directories }
    for entry in ← place.readDir do
      t ← look (path ++ "/" ++ entry.fileName) (parts ++ [entry.fileName]) false t
    return t
  else if (← place.pathExists) && (always || matters (Path.name parts)) then
    let bytes ← IO.FS.readBinFile place
    match contentOf (Path.name parts) bytes.toList with
    | some content => return { t with files := (parts, content) :: t.files }
    | none => throw (IO.userError (path ++ " is not text"))
  else return t

/-- What stands at a path that is written to, and at the paths above it. -/
def lookAbove (parts : PathParts) (t : FileTree) : IO FileTree := do
  let mut t := t
  for n in List.range (parts.length + 1) do
    let above := parts.take n
    let here ← IO.currentDir
    let place := here / Path.display above
    if ← place.isDir then t := { t with directories := above :: t.directories }
    else if ← place.pathExists then t := { t with files := (above, .text "") :: t.files }
  return t

/-- The paths that the arguments name. -/
def named : Command.Request → List String
  | .generate s => s.schema.toList ++ s.documents ++ s.templateDir.toList
  | _ => []

/-- The files that a run can see. -/
def treeFor (working : PathParts) (r : Command.Request) : IO FileTree := do
  let mut t : FileTree := { files := [], directories := [working] }
  for path in named r do
    t ← look path (Path.resolve working path) true t
  match r with
  | .generate s =>
    match s.output with
    | some output => lookAbove (Path.resolve working output) t
    | none => return t
  | _ => return t

/-- The run of the command on the files that the arguments name. -/
def run (args : List String) : IO UInt32 := do
  let working := Path.resolve [] (toString (← IO.currentDir))
  let tree ← treeFor working (.ofArguments args)
  let (ending, progress) := Command.run ⟨tree, working, ["tmp", "typed-operations"]⟩ args
  for line in Command.said ending progress do
    IO.println line
  match progress.written with
  | some (path, code) =>
    IO.FS.createDirAll (Path.display path.dropLast)
    IO.FS.writeFile (Path.display path) code
  | none => pure ()
  match ending with
  | .misused => IO.eprintln "The arguments cannot be used; try --help."
  | .failed _ => IO.eprintln "The command failed."
  | _ => pure ()
  return ending.status.toUInt32

end TypedOperations.Disk

/-- The program. -/
def main (args : List String) : IO UInt32 := do
  try TypedOperations.Disk.run args
  catch e =>
    IO.eprintln ("Error: " ++ toString e)
    return 1
