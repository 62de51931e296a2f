import RouteDoc.Parse
import RouteDoc.Text.Join
import RouteDoc.Text.Visible

/-!
What happens while documents are read and translated, as lines for the log. The events of a parse
are read off the builder's states, so that building itself does not have to report anything.
-/

namespace RouteDoc

open Text

/-- How important an event is, from the least to the most. -/
inductive Level
  | trace
  | debug
  | info
  | warn
  | error
  deriving DecidableEq, Repr

namespace Level

/-- The name of a level at the start of a line. -/
def label : Level → String
  | trace => "TRACE"
  | debug => "DEBUG"
  | info => "INFO"
  | warn => "WARN"
  | error => "ERROR"

/-- The importance as a number. -/
def rank : Level → Nat
  | trace => 0
  | debug => 1
  | info => 2
  | warn => 3
  | error => 4

end Level

/-- Something worth a line in the log. -/
inductive Event
  | scanned (lexeme : Lexeme)
  | fed (mode : Mode) (token : Token)
  | entered (before after : Mode)
  | commandClosed (keyword : Keyword)
  | routeClosed (name : Option String) (commands : Nat)
  | parsing (label : String) (dialect : Dialect)
  | parsed (label : String) (imports routes : Nat)
  | rendered (label : String) (routes bytes : Nat)
  | translated (source output : String)
  | translationFailed (reason : String)
  | watching (folder extension : String) (period : Nat)
  | unseen (path reason : String)
  | passCompleted (done failed : Nat)
  | passFailed (reason : String)
  deriving DecidableEq, Repr

namespace Event

/-- How important an event is. -/
def level : Event → Level
  | scanned _ | fed _ _ | entered _ _ => .trace
  | commandClosed _ | routeClosed _ _ | parsing _ _ | parsed _ _ _ | rendered _ _ _
  | passCompleted _ _ => .debug
  | translated _ _ | watching _ _ _ => .info
  | unseen _ _ | passFailed _ => .warn
  | translationFailed _ => .error

/-- The name of a dialect in the log. -/
def dialectName : Dialect → String
  | .strict => "Strict"
  | .permissive => "Permissive"

/-- The part of the program that reports an event. -/
def origin : Event → String
  | scanned _ => "codl_parser::codl::lexing"
  | fed _ _ | entered _ _ | parsed _ _ _ => "codl_parser::codl::parsing"
  | commandClosed _ | routeClosed _ _ => "codl_parser::codl::parsing::frames"
  | rendered _ _ _ => "codl_render::formats::rust::serializer"
  | parsing _ _ | translated _ _ => "codl::translate"
  | translationFailed _ | watching _ _ _ | unseen _ _ | passCompleted _ _ | passFailed _ =>
    "codl::watch"

/-- What happened, in words. -/
def message : Event → String
  | scanned _ => "scanned"
  | fed _ _ => "feed"
  | entered _ _ => "mode"
  | commandClosed _ => "command closed"
  | routeClosed _ _ => "route closed"
  | parsing _ _ => "parsing"
  | parsed _ _ _ => "parsed document"
  | rendered _ _ _ => "rendered rust"
  | translated source output => "translated " ++ source ++ " -> " ++ output
  | translationFailed reason => reason
  | watching folder extension period =>
    "watching " ++ folder ++ " for *." ++ extension ++ " every " ++ toString period ++ "ms"
  | unseen path reason => "cannot stat " ++ path ++ ": " ++ reason
  | passCompleted _ _ => "pass complete"
  | passFailed reason => "watch pass failed: " ++ reason

/-- The details of an event by name. A detail without a text is not shown. -/
def details : Event → List (String × Option String)
  | scanned lexeme =>
    [("token", lexeme.token.describe), ("span", toString lexeme.start ++ ".." ++ toString lexeme.stop)]
  | fed mode token => [("mode", mode.display), ("token", token.display)]
  | entered before after => [("from", before.display), ("to", after.display)]
  | commandClosed keyword => [("command", quoted keyword.text)]
  | routeClosed name commands => [("name", name.map quoted), ("commands", toString commands)]
  | parsing label dialect => [("namespace", quoted label), ("dialect", dialectName dialect)]
  | parsed label imports routes =>
    [("namespace", quoted label), ("imports", toString imports), ("routes", toString routes)]
  | rendered label routes bytes =>
    [("namespace", quoted label), ("routes", toString routes), ("bytes", toString bytes)]
  | passCompleted done failed => [("translated", toString done), ("failed", toString failed)]
  | translated _ _ | translationFailed _ | watching _ _ _ | unseen _ _ | passFailed _ => []

/-- A detail as it is shown after what happened. -/
def showDetail : String × Option String → String
  | (_, none) => ""
  | (name, some content) => " " ++ name ++ "=" ++ content

/-- An event as a line of the log. What happened is shown so that it cannot steer a terminal. -/
def line (event : Event) : String :=
  alignedRight 5 event.level.label ++ " " ++ visible event.message ++
    concat (event.details.map showDetail) ++ "\n"

end Event

namespace Builder

/-- The events of closing the open command. -/
def commandEvents (builder : Builder) : List Event :=
  match builder.route.bind (·.command) with
  | some (.includes _) => [.commandClosed .includesWord]
  | some (.invoke _) => [.commandClosed .doesWord]
  | none => []

/-- The events of closing the open route. -/
def routeEvents (builder : Builder) : List Event :=
  match builder.route with
  | none => []
  | some frame =>
    builder.commandEvents ++
      [.routeClosed (frame.name.map Value.text) (frame.commands.length + builder.commandEvents.length)]

/-- The events of a keyword that was accepted: the parts it closed, and the new mode. Values and
`INCLUDE` in the strict dialect cause none. -/
def keywordEvents (before after : Builder) : Token → List Event
  | .keyword .routeWord => before.routeEvents ++ [.entered before.mode after.mode]
  | .keyword .includesWord | .keyword .doesWord =>
    before.commandEvents ++ [.entered before.mode after.mode]
  | .keyword .includeWord =>
    match before.dialect with
    | .permissive => before.commandEvents ++ [.entered before.mode after.mode]
    | .strict => []
  | .keyword .importWord | .keyword .usingWord | .keyword .fromWord =>
    [.entered before.mode after.mode]
  | .literal _ | .string _ => []

/-- The events of reading lexemes up to the first that is refused, and the builder after them if
none is. -/
def feedEvents (builder : Builder) (lineMap : LineMap) : List Lexeme → List Event × Option Builder
  | [] => ([], some builder)
  | lexeme :: rest =>
    let start := [.scanned lexeme, .fed builder.mode lexeme.token]
    match builder.feed lexeme.token (lineMap.position lexeme.start) with
    | .error _ => (start, none)
    | .ok next =>
      let (later, last) := next.feedEvents lineMap rest
      (start ++ keywordEvents builder next lexeme.token ++ later, last)

end Builder

/-- The events of parsing a source. -/
def parseEvents (source label : String) (dialect : Dialect) : List Event :=
  let scan := Scan.ofText source
  match (Builder.new label dialect).feedEvents (.ofText source) scan.lexemes, scan.unclosed with
  | (events, some builder), none =>
    match builder.finish with
    | .error _ => events
    | .ok document =>
      events ++ builder.routeEvents ++
        [.parsed label document.imports.length document.routes.length]
  | (events, _), _ => events

end RouteDoc
