import RouteDoc.Files.Path
import RouteDoc.Settings

/-!
The command line. Options that every task has may stand before and after the name of the task, and
win there; on either side an option is given at most once. The value of an option is checked when
the next argument that is not a task is reached, so a request for help that comes first is answered
first.
-/

namespace RouteDoc

/-- What the tool can be asked to do. -/
inductive Task
  | build (folder : Path)
  | watch (folder : Path) (period : Option Nat)
  | inspect (path : Path)
  deriving DecidableEq, Repr

/-- A task, and the settings that are given with it. -/
structure Invocation where
  config : Option Path
  dialect : Option Dialect
  format : Option String
  verbose : Bool
  task : Task
  deriving DecidableEq, Repr

/-- An answer to a command line in place of a task. -/
inductive Notice
  | help
  | version
  | misuse
  deriving DecidableEq, Repr

namespace Arguments

/-- Where on the command line an option stands: before the name of the task, or after it. -/
inductive Scope
  | root
  | build
  | watch
  | inspect
  deriving DecidableEq, Repr

/-- The options that take a value. -/
inductive OptionName
  | config
  | dialect
  | format
  | folder
  | period
  deriving DecidableEq, Repr

/-- The options that take no value. -/
inductive Flag
  | verbose
  | help
  | version
  deriving DecidableEq, Repr

/-- An option of either kind. -/
inductive Switch
  | takes (option : OptionName)
  | flag (flag : Flag)
  deriving DecidableEq, Repr

namespace Switch

/-- The option of a long name. -/
def ofName? : String → Option Switch
  | "config" => some (takes .config)
  | "dialect" => some (takes .dialect)
  | "format" => some (takes .format)
  | "dir" => some (takes .folder)
  | "period" => some (takes .period)
  | "verbose" => some (flag .verbose)
  | "help" => some (flag .help)
  | "version" => some (flag .version)
  | _ => none

/-- The option of a letter. -/
def ofLetter? : Char → Option Switch
  | 'c' => some (takes .config)
  | 'f' => some (takes .format)
  | 'd' => some (takes .folder)
  | 'v' => some (flag .verbose)
  | 'h' => some (flag .help)
  | 'V' => some (flag .version)
  | _ => none

end Switch

namespace Scope

/-- The task of a name. -/
def ofText? : String → Option Scope
  | "build" => some build
  | "watch" => some watch
  | "inspect" => some inspect
  | _ => none

/-- Whether there is an option in a scope. The options of the settings are everywhere. -/
def has (scope : Scope) : Switch → Bool
  | .takes .folder => scope == build || scope == watch
  | .takes .period => scope == watch
  | .flag .version => scope == root
  | _ => true

/-- The option of a long name, if it is in a scope. -/
def long? (scope : Scope) (name : String) : Option Switch := (Switch.ofName? name).filter scope.has

/-- The option of a letter, if it is in a scope. -/
def short? (scope : Scope) (letter : Char) : Option Switch :=
  (Switch.ofLetter? letter).filter scope.has

end Scope

/-- What was given in one scope. -/
structure Given where
  config : Option String := none
  dialect : Option Dialect := none
  format : Option String := none
  verbose : Bool := false
  folder : Option String := none
  period : Option Nat := none
  path : Option String := none
  deriving DecidableEq, Repr

namespace Given

/-- Adds an option with its value. It must not be there yet, and the value has to be one that it
can take. -/
def put (given : Given) (option : OptionName) (value : String) : Except Notice Given :=
  match option with
  | .config => if given.config.isSome then .error .misuse else .ok { given with config := value }
  | .format => if given.format.isSome then .error .misuse else .ok { given with format := value }
  | .folder => if given.folder.isSome then .error .misuse else .ok { given with folder := value }
  | .dialect =>
    match given.dialect, Dialect.ofName? value with
    | none, some dialect => .ok { given with dialect }
    | _, _ => .error .misuse
  | .period =>
    match given.period, word64? value with
    | none, some period => .ok { given with period }
    | _, _ => .error .misuse

/-- Adds an option without a value. Those that ask for an answer are answered at once. -/
def raise (given : Given) : Flag → Except Notice Given
  | .verbose => if given.verbose then .error .misuse else .ok { given with verbose := true }
  | .help => .error .help
  | .version => .error .version

/-- Adds an argument that is no option. Only the inspection of a file has one. -/
def place (given : Given) (scope : Scope) (text : String) : Except Notice Given :=
  if scope = .inspect ∧ given.path = none then .ok { given with path := text } else .error .misuse

end Given

/-- What was read in one scope so far: an option may still wait for its value, or have a value that
is not checked yet. -/
structure Progress where
  given : Given := {}
  pending : Option (OptionName × Option String) := none
  deriving DecidableEq, Repr

namespace Progress

/-- Checks the option that is pending. -/
def settle (progress : Progress) : Except Notice Given :=
  match progress.pending with
  | none => .ok progress.given
  | some (_, none) => .error .misuse
  | some (option, some value) => progress.given.put option value

/-- The option that waits for its value. -/
def waiting? (progress : Progress) : Option OptionName :=
  match progress.pending with
  | some (option, none) => some option
  | _ => none

/-- Reads an option. A value may be attached to it. -/
def switch (progress : Progress) (value : Option String) : Switch → Except Notice Progress
  | .takes option => do
    let given ← progress.settle
    match value with
    | none => return { given, pending := some (option, none) }
    | some value => return { given := ← given.put option value }
  | .flag flag => do
    let given ← progress.settle
    match value with
    | none => return { given := ← given.raise flag }
    | some _ => .error .misuse

/-- Reads letters that stand together. What follows the letter of an option that takes a value is
that value; an equals sign between them does not count. -/
def letters (scope : Scope) (progress : Progress) : List Char → Except Notice Progress
  | [] => .ok progress
  | letter :: rest =>
    match scope.short? letter with
    | none => .error .misuse
    | some (.flag flag) => do letters scope (← progress.switch none (.flag flag)) rest
    | some (.takes option) =>
      match rest with
      | [] => progress.switch none (.takes option)
      | '=' :: value | value => progress.switch (some (String.ofList value)) (.takes option)

/-- Reads an argument that is no option and no value. -/
def place (scope : Scope) (progress : Progress) (text : String) : Except Notice Progress := do
  return { given := ← (← progress.settle).place scope text }

end Progress

/-- The kinds of arguments by their spelling. -/
inductive Word
  | divider
  | long (name : String) (value : Option String)
  | letters (letters : List Char)
  | plain (text : String)
  deriving DecidableEq, Repr

/-- The kind of an argument. A minus sign alone is no option. -/
def Word.ofText (text : String) : Word :=
  match text.toList with
  | ['-', '-'] => divider
  | '-' :: '-' :: rest =>
    match Text.cutAt? '=' rest with
    | none => long (String.ofList rest) none
    | some (name, value) => long (String.ofList name) (some (String.ofList value))
  | '-' :: letter :: rest => letters (letter :: rest)
  | _ => plain text

/-- Reads an option by its long name. -/
def readLong (scope : Scope) (progress : Progress) (name : String) (value : Option String) :
    Except Notice Progress :=
  match scope.long? name with
  | none => .error .misuse
  | some found => progress.switch value found

/-- Reads the arguments after a divider, none of which is an option. -/
def readPlain (scope : Scope) (progress : Progress) : List String → Except Notice Given
  | [] => progress.settle
  | text :: rest => do readPlain scope (← progress.place scope text) rest

/-- Reads the arguments after the name of a task. -/
def readTask (scope : Scope) (progress : Progress) : List String → Except Notice Given
  | [] => progress.settle
  | argument :: rest =>
    match Word.ofText argument with
    | .divider => readPlain scope progress rest
    | .long name value => do readTask scope (← readLong scope progress name value) rest
    | .letters found => do readTask scope (← progress.letters scope found) rest
    | .plain text =>
      match progress.waiting? with
      | some option => readTask scope { progress with pending := some (option, some text) } rest
      | none => do readTask scope (← progress.place scope text) rest

/-- The answer to a request for help on a task. -/
def helpOn : List String → Notice
  | [] => .help
  | [name] => if name = "help" ∨ (Scope.ofText? name).isSome then .help else .misuse
  | _ :: _ :: _ => .misuse

/-- The task in a scope. -/
def taskOf (given : Given) : Scope → Except Notice Task
  | .build => .ok (.build ⟨given.folder.getD "."⟩)
  | .watch => .ok (.watch ⟨given.folder.getD "."⟩ given.period)
  | .inspect =>
    match given.path with
    | some path => .ok (.inspect ⟨path⟩)
    | none => .error .misuse
  | .root => .error .misuse

/-- A task with what was given before and after its name. -/
def combine (above below : Given) (task : Task) : Invocation where
  config := (below.config.or above.config).map Path.mk
  dialect := below.dialect.or above.dialect
  format := below.format.or above.format
  verbose := above.verbose || below.verbose
  task := task

/-- Reads a whole command line. What stands before the name of the task is only settled after all
that follows it was read. -/
def readAll (progress : Progress) : List String → Except Notice Invocation
  | [] => .error .misuse
  | argument :: rest =>
    match Word.ofText argument with
    | .divider => .error .misuse
    | .long name value => do readAll (← readLong .root progress name value) rest
    | .letters found => do readAll (← progress.letters .root found) rest
    | .plain text =>
      match progress.waiting? with
      | some option => readAll { progress with pending := some (option, some text) } rest
      | none =>
        match Scope.ofText? text with
        | some scope => do
          let below ← readTask scope {} rest
          let task ← taskOf below scope
          return combine (← progress.settle) below task
        | none => if text = "help" then .error (helpOn rest) else .error .misuse

end Arguments

/-- The task that a command line asks for. -/
def Invocation.ofArguments (arguments : List String) : Except Notice Invocation :=
  Arguments.readAll {} arguments

end RouteDoc
