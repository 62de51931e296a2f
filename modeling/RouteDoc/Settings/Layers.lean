import RouteDoc.Output.Format
import RouteDoc.Settings
import RouteDoc.Settings.Toml.Read

/-!
Where settings come from: the built-in ones, files in the order in which they are named, and single
settings that are given directly and win over all files.
-/

namespace RouteDoc

/-- A place that settings are taken from. -/
inductive SettingsSource
  | project (folder : Path)
  | file (path : Path)
  | given (key : String) (value : Scalar)

namespace Settings

/-- The name of the file with the settings of a folder. -/
def projectFile : String := "codl.toml"

/-- A section with its fields as they are built in. -/
def builtInSection (sort : Section) (fields : List (String × Scalar)) : String × Setting :=
  (sort.key, .table (fields.map fun (key, value) => (key, .single value none)) none)

/-- The settings that hold if nothing else is said. -/
def builtIn : Setting := .table [
  builtInSection .parser [("dialect", .text "permissive")],
  builtInSection .build [("source_extension", .text "codl")],
  builtInSection .render [("format", .text "rust"), ("registry_path", .text Format.defaultRegistry)],
  builtInSection .watch [("period_ms", .whole 1000)]] none

/-- The file that a path stands for: the file it leads to, or the one with `.toml` after its name. -/
def findFile (tree : FileTree) (path : Path) : Option Path :=
  let longer := path.addExtension "toml"
  if tree.isFile path then some path
  else if tree.isFile longer then some longer
  else none

/-- Puts a file over the settings so far. -/
def putFile (tree : FileTree) (table : Setting) (file : Path) (text : String) :
    Except SettingsError Setting :=
  let source := file.seenFrom tree.workingFolder
  match Toml.parse? text with
  | none => .error (.badFile source)
  | some fields => .ok (table.putFile source fields)

/-- Puts the file of a folder over the settings so far, if there is one that can be read. -/
def putProject (tree : FileTree) (table : Setting) (folder : Path) :
    Except SettingsError Setting :=
  match findFile tree (folder.join projectFile) with
  | none => .ok table
  | some file =>
    match tree.readText file with
    | .error _ => .ok table
    | .ok text => putFile tree table file text

/-- Puts a file that was asked for over the settings so far. -/
def putNamed (tree : FileTree) (table : Setting) (path : Path) :
    Except SettingsError Setting :=
  match findFile tree path with
  | none => .error (.missingFile path.text)
  | some file =>
    match tree.readText file with
    | .error error => .error (.unreadable error)
    | .ok text => putFile tree table file text

/-- Puts all files over the settings so far, in their order. -/
def putFiles (tree : FileTree) (table : Setting) :
    List SettingsSource → Except SettingsError Setting
  | [] => .ok table
  | .project folder :: rest => do putFiles tree (← putProject tree table folder) rest
  | .file path :: rest => do putFiles tree (← putNamed tree table path) rest
  | .given _ _ :: rest => putFiles tree table rest

/-- Puts the settings that are given directly over those of the files. -/
def putGiven (table : Setting) : List (KeyPath × Scalar) → Setting
  | [] => table
  | (path, value) :: rest => putGiven (Setting.putAt (.single value none) path table) rest

/-- The settings that are given directly. All of their keys have to be well formed. -/
def given : List SettingsSource → Except SettingsError (List (KeyPath × Scalar))
  | [] => .ok []
  | .given key value :: rest =>
    match KeyPath.ofText? key with
    | none => .error (.badKey key)
    | some path => do return (path, value) :: (← given rest)
  | .project _ :: rest | .file _ :: rest => given rest

/-- The table of all settings from their sources. -/
def tableOf (tree : FileTree) (sources : List SettingsSource) :
    Except SettingsError Setting := do
  let single ← given sources
  return putGiven (← putFiles tree builtIn sources) single

/-- The settings from their sources. -/
def load (tree : FileTree) (sources : List SettingsSource) : Except SettingsError Settings := do
  ofTable (← tableOf tree sources)

end Settings

end RouteDoc
