import RouteDoc.Settings.Layers

/-!
The single settings that are read, and where their values come from. A file that is read is a layer; what
it says of a leaf is what the last of its entries says that leads to the leaf. The value of a leaf is the
last that is given directly, or else that of the last layer with one, or else the one that is built in.
-/

namespace RouteDoc

/-- The tables of a file, and the name of the file in messages. -/
structure Layer where
  source : String
  fields : List (String × Toml)

/-- Whether a source is a single setting. -/
def SettingsSource.isGiven : SettingsSource → Bool
  | given _ _ => true
  | project _ | file _ => false

/-- A single setting. -/
inductive Leaf
  | dialect
  | extension
  | format
  | registry
  | period
  deriving DecidableEq, Repr

namespace Leaf

/-- The section of a leaf. -/
def sort : Leaf → Section
  | dialect => .parser
  | extension => .build
  | format | registry => .render
  | period => .watch

/-- The key of a leaf in its section. -/
def key : Leaf → String
  | dialect => "dialect"
  | extension => "source_extension"
  | format => "format"
  | registry => "registry_path"
  | period => "period_ms"

/-- The place of a leaf in a section that is a list. -/
def index : Leaf → Nat
  | dialect | extension | format | period => 0
  | registry => 1

/-- The value that is built in. -/
def builtIn : Leaf → Scalar
  | dialect => .text "permissive"
  | extension => .text "codl"
  | format => .text "rust"
  | registry => .text Format.defaultRegistry
  | period => .whole 1000

variable (leaf : Leaf)

/-- The key under which a leaf is given directly. -/
def dotted : String := leaf.sort.key ++ "." ++ leaf.key

/-- Whether a key is that of the leaf, in any case. -/
def hasKey (key : String) : Bool := Text.lowercase key == leaf.key

/-- Whether a key is that of the section of the leaf, in any case. -/
def hasSort (key : String) : Bool := Text.lowercase key == leaf.sort.key

/-- What a table says of a leaf in its section. -/
def inTable? (fields : List (String × Toml)) : Option Scalar :=
  fields.reverse.findSome? fun field =>
    match field with
    | (key, .single value) => if leaf.hasKey key then some value else none
    | _ => none

/-- What an entry of a file says of a leaf: a section as a whole, or the leaf by its path. -/
def atPath? : KeyPath → Toml → Option Scalar
  | [.name sort], .table fields => if leaf.hasSort sort then leaf.inTable? fields else none
  | [.name sort, .name key], .single value => if leaf.hasSort sort && leaf.hasKey key then some value else none
  | _, _ => none

/-- What a file says of a leaf. -/
def inLayer? (layer : Layer) : Option Setting :=
  (layer.fields.reverse.findSome? fun (key, value) =>
    leaf.atPath? ((KeyPath.ofText? key).getD [.name key]) value).map (.single · (some layer.source))

/-- The value of a leaf that is given directly, by the last of the sources that gives one. -/
def given? (sources : List SettingsSource) : Option Setting :=
  sources.reverse.findSome? fun source =>
    match source with
    | .given key value => if key = leaf.dotted then some (.single value none) else none
    | .project _ | .file _ => none

/-- The value of a leaf from its sources and the files among them. -/
def value (sources : List SettingsSource) (layers : List Layer) : Setting :=
  ((leaf.given? sources).or (layers.reverse.findSome? leaf.inLayer?)).getD (.single leaf.builtIn none)

/-- Whether an entry of a file respects a leaf: where the section of the leaf is a whole, it is a table with
a single value for the leaf, if any; where it is entered, it is entered by a key, and the leaf gets a single
value. -/
def Respects : KeyPath → Toml → Prop
  | [.name sort], value => leaf.hasSort sort → ∃ fields, value = .table fields ∧
      ∀ field ∈ fields, leaf.hasKey field.1 → ∃ single, field.2 = .single single
  | .name sort :: .name key :: rest, value => leaf.hasSort sort → leaf.hasKey key →
      rest = [] ∧ ∃ single, value = .single single
  | .name sort :: .item _ :: _, _ => leaf.hasSort sort = false
  | _, _ => True

/-- A table of settings in which every leaf has the given value. -/
def tableOf (value : Leaf → Setting) : Setting := .table [
  (Section.parser.key, .table [(dialect.key, value dialect)] none),
  (Section.build.key, .table [(extension.key, value extension)] none),
  (Section.render.key, .table [(format.key, value format), (registry.key, value registry)] none),
  (Section.watch.key, .table [(period.key, value period)] none)] none

end Leaf

/-- Whether the sections in a file are tables with single values for the leaves. -/
def Layer.Plain (layer : Layer) : Prop :=
  ∀ leaf : Leaf, ∀ entry ∈ layer.fields, leaf.Respects ((KeyPath.ofText? entry.1).getD [.name entry.1]) entry.2

namespace Settings

/-- The place that a leaf is read from. -/
def slotAt (table : Setting) (leaf : Leaf) : Except SettingsError Slot :=
  slotOf table leaf.sort leaf.key leaf.index

/-- The layers that a source adds: that of its file, or none. A folder may lack its file, or hold one that
cannot be read. -/
inductive Adds (tree : FileTree) : SettingsSource → List Layer → Prop
  | given {key : String} {value : Scalar} : Adds tree (.given key value) []
  | lacking {folder : Path} : findFile tree (folder.join projectFile) = none → Adds tree (.project folder) []
  | unreadable {folder file : Path} {error : FileError} : findFile tree (folder.join projectFile) = some file →
      tree.readText file = .error error → Adds tree (.project folder) []
  | project {folder file : Path} {text : String} {fields : List (String × Toml)} :
      findFile tree (folder.join projectFile) = some file → tree.readText file = .ok text →
      Toml.parse? text = some fields → Adds tree (.project folder) [⟨file.seenFrom tree.workingFolder, fields⟩]
  | file {path file : Path} {text : String} {fields : List (String × Toml)} : findFile tree path = some file →
      tree.readText file = .ok text → Toml.parse? text = some fields →
      Adds tree (.file path) [⟨file.seenFrom tree.workingFolder, fields⟩]

/-- The layers that sources add, in their order. -/
inductive Reads (tree : FileTree) : List SettingsSource → List Layer → Prop
  | nil : Reads tree [] []
  | cons {source : SettingsSource} {rest : List SettingsSource} {first later : List Layer} :
      Adds tree source first → Reads tree rest later → Reads tree (source :: rest) (first ++ later)

end Settings

end RouteDoc
