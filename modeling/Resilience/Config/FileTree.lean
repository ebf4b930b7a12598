import Resilience.Config.Error

/-!
# Where a path leads

What opening a file comes to, before any contents are seen: a path is followed name by name through
a tree of directories, files and links, and the first obstacle on the way decides. Opening for
writing makes a file that is not there, so it fails only where there is no place for one.
-/

namespace Resilience

/-- What stands at a place of a file tree. -/
inductive FileNode where
  | directory
  | file
  /-- The file of a device that is not there. -/
  | absentDevice
  /-- A link to another place, by the names that lead there from the root. -/
  | link (names : List String)
deriving DecidableEq, Repr

/-- A tree of files: what stands under a list of names from the root. -/
structure FileTree where
  /-- The node under the given names; none if there is nothing. -/
  node? : List String → Option FileNode
  /-- Whether too long a name is refused in a directory; otherwise nothing has that name. -/
  limitsNames : List String → Bool
  /-- Why no file can be made in a directory; none if one can. -/
  fixedBy : List String → Option FileFault
  /-- The directory that relative paths start from. -/
  current : List String

/-- What a file is opened for. -/
inductive FileAccess where
  | read
  | write
deriving DecidableEq, Repr

namespace FileTree

/-- The longest name in a directory, in bytes. -/
def maxNameLength : Nat := 255

/-- A path has to be shorter than this, in bytes. -/
def maxPathLength : Nat := 4096

/-- So many links are followed on the way along a path. -/
def maxLinks : Nat := 40

/-- One name further from a directory. -/
def descend (place : List String) (name : String) : List String :=
  if name = "." then place
  else if name = ".." then place.dropLast
  else place ++ [name]

/-- Follows names through directories up to the last one, with at most so many links on the way, and
gives where the last one stands. -/
def follow (tree : FileTree) (links : Nat) (place : List String) (names : List String) :
    Except FileFault (List String) :=
  match names with
  | [] => .ok place
  | name :: rest =>
    match tree.node? place with
    | some .directory =>
      if tree.limitsNames place ∧ maxNameLength < name.utf8ByteSize then .error .nameTooLong
      else
        let next := descend place name
        match tree.node? next, links with
        | some (.link _), 0 => .error .tooManyLinks
        | some (.link target), links + 1 => tree.follow links [] (target ++ rest)
        | _, links => tree.follow links next rest
    | some _ => .error .notDirectory
    | none => .error .notFound
termination_by (links, names.length)

/-- Opens the place that was reached; `asDirectory` says that only a directory will do. -/
def openPlace (access : FileAccess) (asDirectory : Bool) (place : List String) (tree : FileTree) :
    Except FileFault Unit :=
  match tree.node? place, access with
  | some .directory, _ => .error .isDirectory
  | some node, _ =>
    if asDirectory then .error .notDirectory
    else if node = .absentDevice then .error .noDevice
    else .ok ()
  | none, .read => .error .notFound
  | none, .write =>
    match tree.fixedBy place.dropLast with
    | some fault => .error fault
    | none => .ok ()

/-- Opens the file at a path, and gives where it stands. Nothing can be written at a path that ends
in a slash, whatever its last name is. -/
def openFile (access : FileAccess) (path : String) (tree : FileTree) :
    Except FileFault (List String) := do
  if path.toList.contains '\x00' then throw .zeroInName
  if path.isEmpty then throw .notFound
  if maxPathLength ≤ path.utf8ByteSize then throw .nameTooLong
  let names := ((path.split '/').toList.map toString).filter fun name ↦ !name.isEmpty
  let start := if path.startsWith "/" then [] else tree.current
  if access = .write ∧ path.endsWith "/" then
    let _ ← tree.follow maxLinks start (names.dropLast ++ ["."])
    throw .isDirectory
  let place ← tree.follow maxLinks start names
  tree.openPlace access (path.endsWith "/") place
  return place

end FileTree

end Resilience
