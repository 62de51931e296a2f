import RouteDoc.Keyed
import RouteDoc.Log
import RouteDoc.Output.Model
import RouteDoc.Output.Registration

/-!
Output formats, and the catalog that finds them by name.
-/

namespace RouteDoc

/-- A way to write a document. Rendering never fails: a document has all that it needs. -/
structure Format where
  name : String
  description : String := ""
  extension : String
  render : Document → String
  events : Document → List Event := fun _ => []

namespace Format

/-- The path of the registry type in generated code, unless another one is chosen. -/
def defaultRegistry : String := "cookoo::Registry"

/-- Rust code that registers the routes on a registry of the given type. -/
def rust (registry : String) : Format where
  name := "rust"
  description := "Rust function registering every route"
  extension := "rs"
  render := Registration.render registry
  events document :=
    [.rendered document.label document.routes.length
      (Registration.render registry document).utf8ByteSize]

/-- The document itself, as JSON. -/
def json : Format where
  name := "json"
  description := "Document model as pretty-printed JSON"
  extension := "json"
  render := Document.toJsonText

end Format

/-- Why a document was not written. -/
inductive RenderError
  | formatNotFound (name : String)
  | refused (reason : String)
  deriving DecidableEq, Repr

/-- The wording of a render error. -/
def RenderError.message : RenderError → String
  | formatNotFound name => "format '" ++ name ++ "' not found"
  | refused reason => "failed to write rendered output: " ++ reason

/-- Takes a text if it has at most `limit` bytes. -/
def boundedWriter (limit : Nat) (text : String) : Except String String :=
  if text.utf8ByteSize ≤ limit then .ok text else .error "writer full"

/-- Hands the whole text of a document to a writer at once. -/
def Format.writeTo {α : Type} (format : Format) (document : Document)
    (writer : String → Except String α) : Except RenderError α :=
  match writer (format.render document) with
  | .ok written => .ok written
  | .error reason => .error (.refused reason)

/-- The formats that can be chosen, the one registered last first. No two have the same name. -/
structure Catalog where
  formats : List Format

namespace Catalog

/-- No format at all. -/
def empty : Catalog := ⟨[]⟩

/-- Adds a format; it replaces the one of the same name. -/
def register (catalog : Catalog) (format : Format) : Catalog :=
  ⟨format :: catalog.formats.filter (·.name != format.name)⟩

/-- The built-in formats. -/
def defaults : Catalog := (empty.register (.rust Format.defaultRegistry)).register .json

/-- The format of a name. -/
def get? (catalog : Catalog) (name : String) : Option Format :=
  catalog.formats.find? (·.name == name)

theorem get?_register (catalog : Catalog) (format : Format) (name : String) :
    (catalog.register format).get? name =
      if name = format.name then some format else catalog.get? name :=
  Keyed.find?_replace_key Format.name catalog.formats format name

/-- The format of a name, or the error that there is none. -/
def get (catalog : Catalog) (name : String) : Except RenderError Format :=
  match catalog.get? name with
  | some format => .ok format
  | none => .error (.formatNotFound name)

/-- Whether there is a format of a name. -/
def contains (catalog : Catalog) (name : String) : Bool := (catalog.get? name).isSome

/-- The names of all formats, in the order of their code points. -/
def names (catalog : Catalog) : List String :=
  (catalog.formats.map Format.name).mergeSort (· ≤ ·)

/-- The text of a document in the format of a name. -/
def render (catalog : Catalog) (name : String) (document : Document) : Except RenderError String :=
  match catalog.get name with
  | .ok format => .ok (format.render document)
  | .error error => .error error

/-- Writes a document in the format of a name. -/
def write {α : Type} (catalog : Catalog) (name : String) (document : Document)
    (writer : String → Except String α) : Except RenderError α :=
  match catalog.get name with
  | .ok format => format.writeTo document writer
  | .error error => .error error

end Catalog

end RouteDoc
