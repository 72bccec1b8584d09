import TypedOperations.Files.Write

/-!
# Taking files out of archives

What a tree of files is after the contents of an archive were put into a directory of it. A zip archive stays in the
directory whatever the names of its entries say; a tar archive takes the names as paths from the directory. An entry that
cannot be taken out ends the work, and what was taken out before stays.
-/

namespace TypedOperations

/-- Why an archive cannot be taken out. -/
inductive UnpackFault where
  | notZip
  | notGzip
  | obstacle (cause : Obstacle)
deriving DecidableEq, Repr, Inhabited

namespace Archive

/-- The name of an entry, which ends at the first null character. -/
def entryName (name : String) : String :=
  String.ofList (name.toList.takeWhile (·.toNat != 0))

/-- The parts of a path that say something. -/
def pathParts (path : String) : List String :=
  (Path.split path).filter (· != "")

/-- An entry of a zip archive is taken out; a name that ends in a slash stands for a directory. -/
def takeZipped (directory : PathParts) (entry : String × String) : Making Unit := do
  let name := entryName entry.1
  let parts := directory ++ (pathParts name).filter fun p => p != "." && p != ".."
  if Text.endsIn name "/" then
    Making.above parts.dropLast
    if !(← get).isDirectory parts then Making.directory parts.dropLast (parts.getLastD ".")
  else Making.file parts entry.2

/-- An entry of a tar archive is taken out. -/
def takeTarred (directory : PathParts) (entry : String × String) : Making Unit :=
  let name := entryName entry.1
  Making.file (Path.start directory name ++ pathParts name) entry.2

/-- The tree after entries were taken out up to one that cannot be, and why it cannot. -/
def takeAll (t : FileTree) (entries : List (String × String)) (take : String × String → Making Unit) :
    FileTree × Option UnpackFault :=
  match (entries.forM take).run.run t with
  | (.ok _, t) => (t, none)
  | (.error cause, t) => (t, some (.obstacle cause))

end Archive

/-- The tree with the contents of an archive in a directory, by the archive's name, as far as they can be taken out. -/
def FileTree.unpack (t : FileTree) (directory : PathParts) (name : String) (content : FileContent) :
    FileTree × Option UnpackFault :=
  let t := { t with directories := directory :: t.directories }
  match content, Path.suffix name == ".zip" with
  | .zip entries, true => Archive.takeAll t entries (Archive.takeZipped directory)
  | _, true => (t, some .notZip)
  | .gzippedTar entries, false => Archive.takeAll t entries (Archive.takeTarred directory)
  | _, false => (t, some .notGzip)

/-- The names of what stands beside a directory. -/
def FileTree.beside (t : FileTree) (directory : PathParts) : List String :=
  let above := directory.dropLast
  let inside := t.files.map (·.1) ++ t.directories
  let names := inside.filterMap fun path => if above.isPrefixOf path then (path.drop above.length).head? else none
  names.eraseDups.filter fun name => above ++ [name] != directory

end TypedOperations
