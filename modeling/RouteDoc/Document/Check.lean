import RouteDoc.Document
import RouteDoc.Text.Join

/-!
Expectations about a document. Checks run in order and the first that fails ends the run; the
report says how many finished before it and why it failed.
-/

namespace RouteDoc

open Text

/-- A check of a binding. -/
inductive ParamCheck
  | name (expected : String)
  | defaultString (expected : String)
  | defaultLiteral (expected : String)
  | noDefault
  | sources (expected : List String)
  deriving DecidableEq, Repr

/-- A check of an invocation. The bindings are counted from zero. -/
inductive InvokeCheck
  | handler (expected : String)
  | displayName (expected : String)
  | noDisplayName
  | paramCount (expected : Nat)
  | param (index : Nat) (checks : List ParamCheck)
  deriving DecidableEq, Repr

/-- A check of an include. -/
inductive IncludeCheck
  | name (expected : String)
  deriving DecidableEq, Repr

/-- A check of a command: it has to be of the kind that the checks are for. -/
inductive CommandCheck
  | includes (checks : List IncludeCheck)
  | invoke (checks : List InvokeCheck)
  deriving DecidableEq, Repr

/-- A check of a route. The commands are counted from zero. -/
inductive RouteCheck
  | name (expected : String)
  | noName
  | description (expected : String)
  | noDescription
  | commandCount (expected : Nat)
  | command (index : Nat) (check : CommandCheck)
  deriving DecidableEq, Repr

/-- A check of a document. Imports and routes are counted from zero; an import is compared by its
code. -/
inductive DocumentCheck
  | label (expected : String)
  | importCount (expected : Nat)
  | import_ (index : Nat) (code : String)
  | routeCount (expected : Nat)
  | route (index : Nat) (checks : List RouteCheck)
  deriving DecidableEq, Repr

namespace Check

/-- Why a check failed. `what` names the part that was looked at. -/
inductive Mismatch
  | outOfBounds (what : String) (index available : Nat)
  | notString (what expected : String) (actual : Option Value)
  | notLiteral (what expected : String) (actual : Option Value)
  | present (what : String) (actual : Option Value)
  | label (expected actual : String)
  | count (what : String) (expected actual : Nat)
  | importCode (index : Nat) (expected actual : String)
  | sources (expected actual : List String)
  | kind (expected actual : Keyword)
  deriving DecidableEq, Repr

/-- A value in a message. -/
def describe : Option Value → String
  | some (.literal text) => "literal «" ++ text ++ "»"
  | some (.string text) => "string " ++ quoted text
  | none => "nothing"

/-- The message of a failed comparison, which shows both sides. -/
def comparison (message actual expected : String) : String :=
  "assertion `left == right` failed: " ++ message ++ "\n  left: " ++ actual ++
    "\n right: " ++ expected

/-- A list of texts in a message. -/
def describeTexts (texts : List String) : String := bracketed (texts.map quoted)

/-- The wording of a failed check; `context` tells which part of the document was checked. -/
def Mismatch.message (context : String) : Mismatch → String
  | outOfBounds what index available =>
    context ++ ": " ++ what ++ " index " ++ toString index ++ " out of bounds (" ++
      toString available ++ " present)"
  | notString what expected actual =>
    context ++ ": Expected " ++ what ++ " to be string " ++ quoted expected ++ ", but got " ++
      describe actual
  | notLiteral what expected actual =>
    context ++ ": Expected " ++ what ++ " to be literal «" ++ expected ++ "», but got " ++
      describe actual
  | present what actual =>
    context ++ ": Expected no " ++ what ++ ", but got " ++ describe actual
  | label expected actual =>
    comparison (context ++ ": Expected namespace '" ++ expected ++ "', but got '" ++ actual ++ "'")
      (quoted actual) (quoted expected)
  | count what expected actual =>
    comparison (context ++ ": Expected " ++ toString expected ++ " " ++ what ++ ", found " ++
      toString actual) (toString actual) (toString expected)
  | importCode index expected actual =>
    comparison (context ++ ": Expected import[" ++ toString index ++ "] to render as " ++
      expected ++ ", but got " ++ actual) (quoted actual) (quoted expected)
  | sources expected actual =>
    comparison (context ++ ": Expected sources " ++ describeTexts expected ++ ", but got " ++
      describeTexts actual) (describeTexts actual) (describeTexts expected)
  | kind expected actual =>
    context ++ ": Expected " ++ expected.text ++ ", found " ++ actual.text

/-- A failed check: the part of the document it is about, and the reason. -/
structure Failure where
  context : String
  mismatch : Mismatch
  deriving DecidableEq, Repr

/-- The wording of a failure. -/
def Failure.message (failure : Failure) : String := failure.mismatch.message failure.context

/-- The outcome of a run: how many checks finished, and the failure that ended it, if one did. -/
structure Report where
  passed : Nat
  failure : Option Failure
  deriving DecidableEq, Repr

/-- Runs checks in order, up to the first that fails. -/
def sequence {α : Type} (run : α → Report) : List α → Report
  | [] => ⟨0, none⟩
  | check :: rest =>
    match run check with
    | ⟨passed, some failure⟩ => ⟨passed, some failure⟩
    | ⟨passed, none⟩ =>
      let later := sequence run rest
      ⟨passed + later.passed, later.failure⟩

/-- The report of one check with nothing inside. -/
def verdict (context : String) : Option Mismatch → Report
  | none => ⟨1, none⟩
  | some mismatch => ⟨0, some ⟨context, mismatch⟩⟩

/-- The report of a check around others: it counts after them. -/
def enclosing (inner : Report) : Report :=
  match inner.failure with
  | some _ => inner
  | none => ⟨inner.passed + 1, none⟩

/-- The place of a numbered part in a message. -/
def within (context what : String) (index : Nat) : String :=
  context ++ ":" ++ what ++ "[" ++ toString index ++ "]"

/-- Looks up a numbered part and checks it. A part that is not there is a failure of its own. -/
def onPart {α : Type} (context what : String) (parts : List α) (index : Nat)
    (run : String → α → Report) : Report :=
  match parts[index]? with
  | none => ⟨0, some ⟨context, .outOfBounds what index parts.length⟩⟩
  | some part => enclosing (run (within context what index) part)

/-- The part has to be a string with the given text. -/
def expectString (what : String) (actual : Option Value) (expected : String) : Option Mismatch :=
  if actual = some (.string expected) then none else some (.notString what expected actual)

/-- The part has to be a literal with the given text. -/
def expectLiteral (what : String) (actual : Option Value) (expected : String) : Option Mismatch :=
  if actual = some (.literal expected) then none else some (.notLiteral what expected actual)

/-- The part has to be absent. -/
def expectNone (what : String) (actual : Option Value) : Option Mismatch :=
  if actual = none then none else some (.present what actual)

/-- There have to be as many parts as expected. -/
def expectCount (what : String) (actual expected : Nat) : Option Mismatch :=
  if actual = expected then none else some (.count what expected actual)

/-- Runs a check of a binding. -/
def param (context : String) (param : Param) : ParamCheck → Report
  | .name expected => verdict context (expectString "name" (some param.name) expected)
  | .defaultString expected => verdict context (expectString "default" param.default expected)
  | .defaultLiteral expected => verdict context (expectLiteral "default" param.default expected)
  | .noDefault => verdict context (expectNone "default" param.default)
  | .sources expected =>
    let actual := param.sources.map Value.text
    verdict context (if actual = expected then none else some (.sources expected actual))

/-- Runs a check of an invocation. -/
def invoke (context : String) (invoke : Invoke) : InvokeCheck → Report
  | .handler expected => verdict context (expectLiteral "handler" (some invoke.handler) expected)
  | .displayName expected => verdict context (expectString "display name" invoke.name expected)
  | .noDisplayName => verdict context (expectNone "display name" invoke.name)
  | .paramCount expected => verdict context (expectCount "params" invoke.params.length expected)
  | .param index checks =>
    onPart context "param" invoke.params index fun inner part => sequence (param inner part) checks

/-- Runs a check of an include, given the name it refers to. -/
def includes (context : String) (name : Value) : IncludeCheck → Report
  | .name expected => verdict context (expectString "name" (some name) expected)

/-- Runs a check of a command. -/
def command (context : String) (command : Command) : CommandCheck → Report
  | .includes checks =>
    match command with
    | .includes name => sequence (includes context name) checks
    | .invoke _ => ⟨0, some ⟨context, .kind .includesWord command.keyword⟩⟩
  | .invoke checks =>
    match command with
    | .invoke part => sequence (invoke context part) checks
    | .includes _ => ⟨0, some ⟨context, .kind .doesWord command.keyword⟩⟩

/-- Runs a check of a route. -/
def route (context : String) (route : Route) : RouteCheck → Report
  | .name expected => verdict context (expectString "name" route.name expected)
  | .noName => verdict context (expectNone "name" route.name)
  | .description expected =>
    verdict context (expectString "description" route.description expected)
  | .noDescription => verdict context (expectNone "description" route.description)
  | .commandCount expected =>
    verdict context (expectCount "commands" route.commands.length expected)
  | .command index check =>
    onPart context "command" route.commands index fun inner part => command inner part check

/-- Runs a check of a document. -/
def document (document : Document) : DocumentCheck → Report
  | .label expected =>
    verdict "document"
      (if document.label = expected then none else some (.label expected document.label))
  | .importCount expected =>
    verdict "document" (expectCount "imports" document.imports.length expected)
  | .import_ index code =>
    match document.imports[index]? with
    | none => ⟨0, some ⟨"document", .outOfBounds "import" index document.imports.length⟩⟩
    | some value =>
      verdict "document"
        (if value.code = code then none else some (.importCode index code value.code))
  | .routeCount expected =>
    verdict "document" (expectCount "routes" document.routes.length expected)
  | .route index checks =>
    onPart "document" "route" document.routes index fun inner part =>
      sequence (route inner part) checks

end Check

/-- Runs checks of a document in order, up to the first that fails. -/
def Document.check (document : Document) (checks : List DocumentCheck) : Check.Report :=
  Check.sequence (Check.document document) checks

end RouteDoc
