import RouteDoc.Files.Tree
import RouteDoc.Output.Format
import RouteDoc.Position.Excerpt
import RouteDoc.Settings

/-!
Translating source files. The output of a source is written beside it, with the extension of the
format. A source that cannot be read, parsed or written leaves all files as they are.
-/

namespace RouteDoc

/-- What can go wrong with a source file. -/
inductive SourceError
  | unread (path : Path) (error : FileError)
  | unscanned (path : Path) (error : ScanError)
  | refused (path : Path) (source : String) (error : ParseError)
  | unwritten (path : Path) (error : FileError)
  deriving DecidableEq

/-- The wording of a source error. A source that was refused is shown around the place where it
was. -/
def SourceError.message : SourceError → String
  | unread path error => "failed to read " ++ path.text ++ ": " ++ error.message
  | unscanned path error => "failed to scan " ++ path.text ++ ": " ++ error.message
  | refused path source error =>
    match error.position? with
    | some place => path.text ++ ":" ++ error.message ++ "\n" ++ excerpt source place
    | none => "failed to parse " ++ path.text ++ ": " ++ error.message
  | unwritten path error => "failed to write " ++ path.text ++ ": " ++ error.message

/-- An event, and the files at the moment when it is reported. -/
structure Moment where
  event : Event
  tree : FileTree

/-- Events that are all reported before the files change. -/
def Moment.allAt (tree : FileTree) (events : List Event) : List Moment := events.map (⟨·, tree⟩)

/-- Parses sources in one dialect and renders them in one format. -/
structure Translator where
  format : Format
  dialect : Dialect

namespace Translator

/-- The translator for some settings, if they name a format that there is. -/
def ofSettings (settings : Settings) : Except RenderError Translator :=
  match (Catalog.defaults.register (.rust settings.registry)).get settings.format with
  | .error error => .error error
  | .ok format => .ok ⟨format, settings.dialect⟩

variable (translator : Translator)

/-- Where the output of a source is written. -/
def outputPath (source : Path) : Path := source.withExtension translator.format.extension

/-- The document of a source. It is labelled by the name of the file. -/
def document (tree : FileTree) (source : Path) : Except SourceError Document :=
  match tree.readText source with
  | .error error => .error (.unread source error)
  | .ok text =>
    match parse text source.label translator.dialect with
    | .error error => .error (.refused source text error)
    | .ok document => .ok document

/-- The output for a source. -/
def rendering (tree : FileTree) (source : Path) : Except SourceError String :=
  match translator.document tree source with
  | .error error => .error error
  | .ok document => .ok (translator.format.render document)

/-- Writes the output for a source: the path written, and the files afterwards. -/
def translate (tree : FileTree) (source : Path) : Except SourceError (Path × FileTree) :=
  match translator.rendering tree source with
  | .error error => .error error
  | .ok text =>
    let output := translator.outputPath source
    match tree.write output text with
    | .error error => .error (.unwritten output error)
    | .ok after => .ok (output, after)

/-- Translates sources one by one up to the first failure. What was written before it stays. -/
def translateAll (tree : FileTree) : List Path → Except SourceError (List Path) × FileTree
  | [] => (.ok [], tree)
  | source :: rest =>
    match translator.translate tree source with
    | .error error => (.error error, tree)
    | .ok (output, after) =>
      let (outputs, last) := translateAll after rest
      (outputs.map (output :: ·), last)

/-- The events of reading and rendering a source. -/
def renderingEvents (tree : FileTree) (source : Path) : List Event :=
  match tree.readText source with
  | .error _ => []
  | .ok text =>
    .parsing source.label translator.dialect :: parseEvents text source.label translator.dialect ++
      match translator.document tree source with
      | .error _ => []
      | .ok document => translator.format.events document

/-- The events of translating a source, with the files at each of them. That it is translated is
reported once the output is written. -/
def translateHistory (tree : FileTree) (source : Path) : List Moment :=
  Moment.allAt tree (translator.renderingEvents tree source) ++
    match translator.translate tree source with
    | .error _ => []
    | .ok (output, after) => [⟨.translated source.text output.text, after⟩]

/-- The events of translating a source. -/
def translateEvents (tree : FileTree) (source : Path) : List Event :=
  (translator.translateHistory tree source).map Moment.event

/-- The events of translating sources one by one. -/
def translateAllEvents (tree : FileTree) : List Path → List Event
  | [] => []
  | source :: rest =>
    translator.translateEvents tree source ++
      match translator.translate tree source with
      | .error _ => []
      | .ok (_, after) => translateAllEvents after rest

end Translator

end RouteDoc
