import RouteDoc.Command.Arguments
import RouteDoc.Inspect
import RouteDoc.Log.Filter
import RouteDoc.Settings.Layers
import RouteDoc.Watch

/-!
Carrying out a task on a tree of files. Building and inspecting come to an end, with an exit code and
texts for the two output streams; watching has no end, so all that is settled is what is watched.
-/

namespace RouteDoc

/-- What can keep a task from being carried out. -/
inductive Failure
  | settings (error : SettingsError)
  | format (error : RenderError)
  | search (folder : Path) (error : SearchError)
  | source (error : SourceError)
  deriving DecidableEq

/-- The line that reports a failure. -/
def Failure.line : Failure → String
  | settings error => "Configuration error: " ++ error.message ++ "\n"
  | format error => "Error: " ++ error.message ++ "\n"
  | search folder error => "Error: failed to search " ++ folder.text ++ ": " ++ error.message ++ "\n"
  | source error => "Error: " ++ error.message ++ "\n"

/-- How a task ends: with what it shows, with no source to be found, or with a failure. -/
inductive Ending
  | finished (shown : String)
  | nothingFound (extension : String) (folder : Path)
  | failed (failure : Failure)
  deriving DecidableEq

namespace Ending

/-- The exit code for an ending. -/
def exitCode : Ending → Nat
  | finished _ => 0
  | failed _ => 1
  | nothingFound _ _ => 2

/-- What is shown on the standard output. -/
def output : Ending → String
  | finished shown => shown
  | nothingFound _ _ | failed _ => ""

/-- What is reported after the log. -/
def report : Ending → String
  | finished _ => ""
  | nothingFound extension folder =>
    "No *." ++ extension ++ " files found in " ++ folder.text ++ "\n"
  | failed failure => failure.line

end Ending

/-- A task at its end: how it ended, what happened, and the files afterwards. -/
structure Outcome where
  ending : Ending
  events : List Event
  tree : FileTree

/-- What comes of a task: an end, or something to watch from then on. -/
inductive Run
  | ended (outcome : Outcome)
  | watching (watcher : Watcher)

namespace Translator

variable (translator : Translator)

/-- Translates all sources in a folder. -/
def build (tree : FileTree) (folder : Path) (extension : String) : Outcome :=
  match discover tree folder extension with
  | .error error => ⟨.failed (.search folder error), [], tree⟩
  | .ok [] => ⟨.nothingFound extension folder, [], tree⟩
  | .ok (first :: rest) =>
    let sources := first :: rest
    let (result, after) := translator.translateAll tree sources
    let ending := match result with
      | .error error => .failed (.source error)
      | .ok _ => .finished ""
    ⟨ending, translator.translateAllEvents tree sources, after⟩

/-- Shows a file. -/
def display (tree : FileTree) (path : Path) (shown : String) : Outcome :=
  let ending := match translator.inspect tree path shown with
    | .error error => .failed (.source error)
    | .ok output => .finished output
  ⟨ending, translator.inspectEvents tree path shown, tree⟩

end Translator

namespace Invocation

/-- Where the settings of an invocation come from: the file of the working folder, the file that is
named, and the options. A wish to see tokens does not change the format. -/
def sources (invocation : Invocation) : List SettingsSource :=
  let named := invocation.config.map SettingsSource.file
  let dialect := invocation.dialect.map fun dialect =>
    SettingsSource.given "parser.dialect" (.text dialect.name)
  let format := (invocation.format.filter (· != tokensName)).map fun format =>
    SettingsSource.given "render.format" (.text format)
  .project ⟨"."⟩ :: (named.toList ++ dialect.toList ++ format.toList)

/-- Carries out a task with its settings. -/
def runWith (invocation : Invocation) (tree : FileTree) (settings : Settings)
    (translator : Translator) : Run :=
  match invocation.task with
  | .build folder => .ended (translator.build tree folder settings.extension)
  | .watch folder period =>
    .watching ⟨translator, folder, settings.extension, period.getD settings.period⟩
  | .inspect path => .ended (translator.display tree path (invocation.format.getD settings.format))

/-- Carries out a task. The settings are read and the format is chosen first, whatever the task. -/
def run (invocation : Invocation) (tree : FileTree) : Run :=
  match Settings.load tree invocation.sources with
  | .error error => .ended ⟨.failed (.settings error), [], tree⟩
  | .ok settings =>
    match Translator.ofSettings settings with
    | .error error => .ended ⟨.failed (.format error), [], tree⟩
    | .ok translator => invocation.runWith tree settings translator

/-- What is logged of an invocation. -/
def filter (invocation : Invocation) (environment : Option String) : LogFilter :=
  .choose environment invocation.verbose

end Invocation

namespace Notice

/-- The version of the tool. -/
def versionText : String := "codl 0.1.0\n"

/-- How the tool is used. -/
def usage : String :=
  "Translate CODL route definitions into code\n\n" ++
  "Usage: codl [OPTIONS] <COMMAND>\n\n" ++
  "Commands:\n" ++
  "  build [-d <DIR>]                  Translate every CODL file in a directory\n" ++
  "  watch [-d <DIR>] [--period <MS>]  Translate files as they change\n" ++
  "  inspect <PATH>                    Print the tokens or the rendered output of one file\n" ++
  "  help [COMMAND]                    Print this text\n\n" ++
  "Options:\n" ++
  "  -c, --config <FILE>      Configuration file layered over ./codl.toml\n" ++
  "      --dialect <DIALECT>  Grammar dialect: strict or permissive\n" ++
  "  -f, --format <FORMAT>    Output format: rust, json, or tokens for inspect\n" ++
  "  -v, --verbose            Log debug output\n" ++
  "  -h, --help               Print this text\n" ++
  "  -V, --version            Print the version\n"

/-- The exit code of an answer. -/
def exitCode : Notice → Nat
  | help | version => 0
  | misuse => 2

/-- What an answer writes to the standard output. -/
def output : Notice → String
  | help => usage
  | version => versionText
  | misuse => ""

/-- What an answer reports. -/
def report : Notice → String
  | help | version => ""
  | misuse => "error: the arguments do not make up a command\n\n" ++ usage

end Notice

end RouteDoc
