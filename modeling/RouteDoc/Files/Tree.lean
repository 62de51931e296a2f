import RouteDoc.Files.Path
import RouteDoc.Keyed

/-!
A tree of folders and files, and what paths lead to in it. A write changes one file and gives it a
time that no file had before.
-/

namespace RouteDoc

/-- Where an entry is: the names on the way to it from the root. -/
abbrev Location := List String

/-- A time of modification. -/
abbrev Time := Int

/-- A folder, or a file with its bytes and the time they were written. -/
inductive Entry
  | folder
  | file (content : ByteArray) (modified : Time)

/-- Folders and files by location. The root is always there and is not listed. Relative paths start
at the working folder. The clock gives the time of the next write. -/
structure FileTree where
  entries : List (Location × Entry)
  workingFolder : Location
  clock : Time

/-- Why a path cannot be used. -/
inductive FileError
  | notFound
  | notFolder
  | isFolder
  | nameTooLong
  | holdsNul
  | invalidUtf8
  deriving DecidableEq, Repr

/-- The wording of a file error. -/
def FileError.message : FileError → String
  | notFound => "No such file or directory (os error 2)"
  | notFolder => "Not a directory (os error 20)"
  | isFolder => "Is a directory (os error 21)"
  | nameTooLong => "File name too long (os error 36)"
  | holdsNul => "file name contained an unexpected NUL byte"
  | invalidUtf8 => "stream did not contain valid UTF-8"

namespace FileTree

/-- The entry at a location. -/
def lookup (tree : FileTree) (location : Location) : Option Entry :=
  if location = [] then some .folder
  else Keyed.get? tree.entries location

/-- The most bytes that a name can have. -/
def longestName : Nat := 255

/-- The most bytes that a path can have. -/
def longestPath : Nat := 4095

/-- Follows the pieces of a path from a location. Every piece, also an empty one, is looked up in a
folder; what the last piece names need not exist. -/
def follow (tree : FileTree) (location : Location) : List String → Except FileError Location
  | [] => .ok location
  | piece :: rest =>
    match tree.lookup location with
    | none => .error .notFound
    | some (.file _ _) => .error .notFolder
    | some .folder =>
      if piece = "" ∨ piece = "." then tree.follow location rest
      else if piece = ".." then tree.follow location.dropLast rest
      else if longestName < piece.utf8ByteSize then .error .nameTooLong
      else tree.follow (location ++ [piece]) rest

/-- The location that a path leads to. The empty path leads nowhere, and neither does one that is
too long or holds the character that ends a path. -/
def resolve (tree : FileTree) (path : Path) : Except FileError Location :=
  if path.text.toList.contains '\x00' then .error .holdsNul
  else if path.text = "" then .error .notFound
  else if longestPath < path.text.utf8ByteSize then .error .nameTooLong
  else tree.follow (if path.isAbsolute then [] else tree.workingFolder) path.pieces

/-- The entry that a path leads to. -/
def entry (tree : FileTree) (path : Path) : Except FileError Entry :=
  match tree.resolve path with
  | .error error => .error error
  | .ok location =>
    match tree.lookup location with
    | none => .error .notFound
    | some found => .ok found

/-- Whether a path leads to anything. -/
def leadsTo (tree : FileTree) (path : Path) : Bool :=
  match tree.entry path with
  | .ok _ => true
  | .error _ => false

/-- Whether a path leads to a folder. -/
def isFolder (tree : FileTree) (path : Path) : Bool :=
  match tree.entry path with
  | .ok .folder => true
  | _ => false

/-- Whether a path leads to a file. -/
def isFile (tree : FileTree) (path : Path) : Bool :=
  match tree.entry path with
  | .ok (.file _ _) => true
  | _ => false

/-- The names in the folder that a path leads to. -/
def names (tree : FileTree) (path : Path) : List String :=
  match tree.resolve path with
  | .error _ => []
  | .ok folder => tree.entries.filterMap fun (location, _) =>
    match location.getLast? with
    | some name => if location = folder ++ [name] then some name else none
    | none => none

/-- The bytes of a file. -/
def readBytes (tree : FileTree) (path : Path) : Except FileError ByteArray :=
  match tree.entry path with
  | .error error => .error error
  | .ok .folder => .error .isFolder
  | .ok (.file content _) => .ok content

/-- The text of a file. -/
def readText (tree : FileTree) (path : Path) : Except FileError String :=
  match tree.readBytes path with
  | .error error => .error error
  | .ok content =>
    match String.fromUTF8? content with
    | some text => .ok text
    | none => .error .invalidUtf8

/-- When a file was last written. Folders are not told apart by time. -/
def modified (tree : FileTree) (path : Path) : Except FileError Time :=
  match tree.entry path with
  | .error error => .error error
  | .ok .folder => .ok 0
  | .ok (.file _ time) => .ok time

/-- Takes the entry at a location out of the tree. -/
def remove (tree : FileTree) (location : Location) : FileTree :=
  { tree with entries := Keyed.erase tree.entries location }

theorem lookup_remove (tree : FileTree) (removed location : Location) :
    (tree.remove removed).lookup location =
      if location ≠ [] ∧ location = removed then none else tree.lookup location := by
  by_cases root : location = []
  · simp [lookup, root]
  · simp [lookup, root, remove, Keyed.get?_erase]

/-- Puts an entry at a location, in place of any other there. -/
def put (tree : FileTree) (location : Location) (entry : Entry) : FileTree :=
  { tree with entries := Keyed.set tree.entries location entry }

theorem lookup_put (tree : FileTree) (written location : Location) (entry : Entry) :
    (tree.put written entry).lookup location =
      if location ≠ [] ∧ location = written then some entry else tree.lookup location := by
  by_cases root : location = []
  · simp [lookup, root]
  · simp [lookup, root, put, Keyed.get?_set]

/-- Writes a file, new or not, at the time of the clock. -/
def write (tree : FileTree) (path : Path) (text : String) : Except FileError FileTree :=
  match tree.resolve path with
  | .error error => .error error
  | .ok location =>
    match tree.lookup location with
    | some .folder => .error .isFolder
    | some (.file _ _) | none =>
      .ok { tree.put location (.file text.toUTF8 tree.clock) with clock := tree.clock + 1 }

/-- Makes a folder at each of the locations that are still free. -/
def makeFolders (tree : FileTree) : List Location → FileTree
  | [] => tree
  | location :: rest =>
    match tree.lookup location with
    | none => (tree.put location .folder).makeFolders rest
    | some _ => tree.makeFolders rest

/-- A location and those above it, without the root, from the top down. -/
def waysTo (location : Location) : List Location :=
  (List.range location.length).map fun length => location.take (length + 1)

/-- The tree with a file at a location, and the folders that it needs. -/
def withFile (tree : FileTree) (location : Location) (content : ByteArray) (time : Time) :
    FileTree :=
  (tree.makeFolders (waysTo location.dropLast)).put location (.file content time)

/-- The tree with a folder at a location, and the folders that it needs. -/
def withFolder (tree : FileTree) (location : Location) : FileTree :=
  tree.makeFolders (waysTo location)

/-- A tree with nothing in its working folder. -/
def empty (workingFolder : Location) (clock : Time) : FileTree :=
  (FileTree.mk [] workingFolder clock).withFolder workingFolder

/-- The files of a tree that are new in it or have other bytes than before. -/
def changes (before after : FileTree) : List (Location × ByteArray) :=
  after.entries.filterMap fun (location, entry) =>
    match entry, before.lookup location with
    | .folder, _ => none
    | .file content _, some (.file old _) => if content.data = old.data then none else some (location, content)
    | .file content _, _ => some (location, content)

end FileTree

end RouteDoc
