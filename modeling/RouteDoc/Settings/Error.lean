import RouteDoc.Files.Tree
import RouteDoc.Settings.Table
import RouteDoc.Text.Quoted

/-!
What can be wrong with settings, and the wording of it.
-/

namespace RouteDoc

open Text

/-- The groups of settings. -/
inductive Section
  | parser
  | build
  | render
  | watch
  deriving DecidableEq, Repr

namespace Section

/-- The key of a section. -/
def key : Section → String
  | parser => "parser"
  | build => "build"
  | render => "render"
  | watch => "watch"

/-- The number of settings in a section. -/
def size : Section → Nat
  | parser | build | watch => 1
  | render => 2

/-- The name of a section in messages. -/
def title : Section → String
  | parser => "struct ParserConfig"
  | build => "struct BuildConfig"
  | render => "struct RenderConfig"
  | watch => "struct WatchConfig"

end Section

/-- What stands where something else was expected. -/
inductive Found
  | nothing
  | single (value : Scalar)
  | list
  | table
  deriving DecidableEq, Repr

/-- What a setting is, as far as it is told in messages. -/
def Found.ofSetting : Setting → Found
  | .absent => nothing
  | .single value _ => single value
  | .list _ _ => list
  | .table _ _ => table

/-- How a setting is told in messages. -/
def Found.describe : Found → String
  | nothing => "unit value"
  | single (.text content) => "string " ++ quoted content
  | single (.whole number) => "integer `" ++ toString number ++ "`"
  | single (.real number) => "floating point `" ++ number.textWithPoint ++ "`"
  | single (.flag true) => "boolean `true`"
  | single (.flag false) => "boolean `false`"
  | list => "sequence"
  | table => "map"

/-- What a setting should be. -/
inductive Expected
  | text
  | whole
  deriving DecidableEq, Repr

/-- The wording of what a setting should be. A whole number that was found must have been
negative. -/
def Expected.describe : Expected → Found → String
  | text, _ => "a string"
  | whole, .single (.whole _) => "an unsigned 64 bit or less integer"
  | whole, _ => "an integer"

/-- How a value is told in messages about a single setting. -/
def Found.describeValue : Found → String
  | single (.whole number) => "64-bit integer `" ++ toString number ++ "`"
  | other => other.describe

/-- Why there are no settings. -/
inductive SettingsError
  | badKey (key : String)
  | badFile (source : String)
  | missingFile (path : String)
  | unreadable (error : FileError)
  | wrongSection (sort : Section) (found : Found)
  | shortSection (sort : Section) (length : Nat)
  | missingField (key : String)
  | wrongValue (found : Found) (expected : Expected) (key : String) (source : Option String)
  | unknownDialect (name : String)
  | shapelessDialect
  | badExtension (extension : String)
  | blankRegistry
  | zeroPeriod
  deriving DecidableEq, Repr

/-- The wording of a settings error. -/
def SettingsError.message : SettingsError → String
  | badKey key => "not a key: " ++ quoted key
  | badFile source => "not a TOML file: " ++ source
  | missingFile path => "configuration file \x22" ++ path ++ "\x22 not found"
  | unreadable error => error.message
  | wrongSection sort found => "invalid type: " ++ found.describe ++ ", expected " ++ sort.title
  | shortSection sort length =>
    "invalid length " ++ toString length ++ ", expected " ++ sort.title ++ " with " ++
      (if sort.size = 1 then "1 element" else toString sort.size ++ " elements")
  | missingField key => "missing field `" ++ key ++ "`"
  | wrongValue found expected key source =>
    "invalid type: " ++ found.describeValue ++ ", expected " ++ expected.describe found ++
      " for key `" ++ key ++ "`" ++ (match source with
        | none => ""
        | some source => " in " ++ source)
  | unknownDialect name => "enum Dialect does not have variant constructor " ++ name
  | shapelessDialect =>
    "value of enum Dialect should be represented by either string or table with exactly one key"
  | badExtension extension =>
    "build.source_extension must be a plain extension, got " ++ quoted extension
  | blankRegistry => "render.registry_path must not be empty"
  | zeroPeriod => "watch.period_ms must be at least 1"

end RouteDoc
