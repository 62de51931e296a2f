import RouteDoc.Files.Pattern
import RouteDoc.Files.Tree

/-!
Finding files by pattern. A pattern is followed part by part from the working folder; a part
without wildcards is only tried, a part with wildcards is compared with every name in the folder
reached so far.
-/

namespace RouteDoc

/-- A search pattern that is not well formed. -/
structure SearchError where
  pattern : String
  error : PatternError
  deriving DecidableEq, Repr

/-- The wording of a search error. -/
def SearchError.message (error : SearchError) : String :=
  "bad search pattern " ++ error.pattern ++ ": " ++ error.error.message

namespace Search

/-- A path with one more name. Names in the working folder itself stand alone. -/
def extend (path : Path) (name : String) : Path :=
  if path.parts = ["."] then ⟨name⟩ else path.join name

/-- The names in the folder that a path leads to, sorted. -/
def sortedNames (tree : FileTree) (path : Path) : List String :=
  (tree.names path).mergeSort fun first second => decide (first ≤ second)

/-- The paths from a folder to all that is below it, with at most `depth` names. A folder stands
before all that is in it. -/
def below (tree : FileTree) (path : Path) : Nat → List Path
  | 0 => []
  | depth + 1 =>
    if tree.isFolder path then
      (sortedNames tree path).flatMap fun name =>
        let next := extend path name
        next :: below tree next depth
    else []

/-- The paths that lead on from `path` by a part of a pattern without wildcards. -/
def tryName (tree : FileTree) (path : Path) (name : String) : List Path :=
  let next := extend path name
  if name = "." ∨ name = ".." then if tree.isFolder path then [next] else []
  else if tree.leadsTo next then [next] else []

/-- The names of the folder above a folder and of the folder itself, as far as a part of a pattern
matches them. They are only tried if the part starts with a dot of its own. -/
def dotNames (part : List Wildcard) : List String :=
  if part.head? = some (.char '.') then
    ["..", "."].filter fun name => Pattern.covers part name.toList
  else []

/-- The paths that lead on from `path` by a part of a pattern with wildcards. -/
def tryNames (tree : FileTree) (path : Path) (part : List Wildcard) : List Path :=
  if tree.isFolder path then
    (dotNames part).map path.join ++
      ((sortedNames tree path).filter fun name => Pattern.covers part name.toList).map (extend path)
  else []

/-- The paths below a folder whose last name a part of a pattern matches. -/
def namesBelow (tree : FileTree) (path : Path) (part : List Wildcard) : List Path :=
  (below tree path tree.entries.length).filter fun next =>
    match next.headAndName? with
    | some (_, name) => Pattern.covers part name
    | none => false

/-- The paths that match the parts of a pattern, from `path` on, in the order in which they are
found. After two stars (`deep`), the next part is compared with every name below the folder, and
without a next part every folder below it matches. -/
def expand (tree : FileTree) (deep : Bool) : List (List Wildcard) → Path → List Path
  | [], path =>
    if deep then (below tree path tree.entries.length).filter tree.isFolder else [path]
  | part :: rest, path =>
    if part = [.folders] then expand tree true rest path
    else if deep then (namesBelow tree path part).flatMap (expand tree false rest)
    else match Pattern.plain? part with
      | some name => (tryName tree path name).flatMap (expand tree false rest)
      | none => (tryNames tree path part).flatMap (expand tree false rest)

/-- Reads the parts of a pattern one by one. -/
def compileParts : List String → Except PatternError (List (List Wildcard))
  | [] => .ok []
  | part :: rest =>
    match Pattern.compile part with
    | .error error => .error error
    | .ok wildcards => (compileParts rest).map (wildcards :: ·)

/-- Where the search for a pattern starts, and the parts it follows from there. -/
def startAndParts (pattern : Path) : Path × List String :=
  if pattern.isAbsolute then (⟨"/"⟩, pattern.pieces.dropWhile (· == ""))
  else (⟨"."⟩, pattern.pieces)

/-- All paths that match a pattern, in the order in which they are found. The pattern is checked as
a whole first, so that the place of a fault is counted from its start. -/
def run (tree : FileTree) (pattern : Path) : Except PatternError (List Path) :=
  match Pattern.compile pattern.text with
  | .error error => .error error
  | .ok _ =>
    let (start, parts) := startAndParts pattern
    (compileParts parts).map fun compiled => expand tree false compiled start

end Search

/-- The files in a folder that have an extension, sorted; paths with the same parts stay in the order
in which they were found. The name of the folder is taken as it is; the extension may hold
wildcards. -/
def discover (tree : FileTree) (folder : Path) (extension : String) :
    Except SearchError (List Path) :=
  let pattern := Path.join ⟨Pattern.escape folder.text⟩ ("*." ++ extension)
  match Search.run tree pattern with
  | .error error => .error ⟨pattern.text, error⟩
  | .ok found => .ok ((found.filter tree.isFile).mergeSort Path.le)

end RouteDoc
