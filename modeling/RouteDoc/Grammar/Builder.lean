import RouteDoc.Grammar.Frame

/-!
Building a document one token at a time. Keywords open parts and choose the mode; values fill the
places of the innermost open part in order and leave the mode alone. The first violation ends the
construction.
-/

namespace RouteDoc

/-- A document under construction: its name, what is closed so far with the latest first, the open
route, and the mode. -/
structure Builder where
  dialect : Dialect
  label : String
  imports : List Value := []
  routes : List Route := []
  route : Option RouteFrame := none
  mode : Mode := .top
  deriving DecidableEq, Repr

/-- Why a token was refused: it breaks a rule itself, or it would close a part that is not
complete. -/
inductive Refusal
  | token (fault : Fault)
  | unfinished (part : Unfinished)
  deriving DecidableEq, Repr

namespace Builder

/-- Nothing but the name of the document is known at the start. -/
def new (label : String) (dialect : Dialect) : Builder := { dialect, label }

/-- The document as far as it is closed. -/
def document (builder : Builder) : Document :=
  ⟨builder.label, builder.imports.reverse, builder.routes.reverse⟩

/-- Runs a check that may leave a part unfinished. -/
def closing {α : Type} : Except Unfinished α → Except Refusal α
  | .error part => .error (.unfinished part)
  | .ok value => .ok value

/-- Closes the open route, if there is one. -/
def closeRoute (builder : Builder) : Except Unfinished Builder :=
  match builder.route with
  | none => .ok builder
  | some frame => frame.close.map fun route =>
      { builder with routes := route :: builder.routes, route := none }

/-- Changes the open route. Without one the token is outside of a route. -/
def onRoute (builder : Builder) (change : RouteFrame → Except Refusal RouteFrame) :
    Except Refusal Builder :=
  match builder.route with
  | none => .error (.token .outsideRoute)
  | some frame => (change frame).map fun changed => { builder with route := some changed }

/-- Changes the open include. -/
def onInclude (builder : Builder) (change : IncludeFrame → Except Refusal IncludeFrame) :
    Except Refusal Builder :=
  builder.onRoute fun frame =>
    match frame.command with
    | some (.includes command) =>
      (change command).map fun changed => { frame with command := some (.includes changed) }
    | some (.invoke _) | none => .error (.token .outsideRoute)

/-- Changes the open invocation. -/
def onInvoke (builder : Builder) (change : InvokeFrame → Except Refusal InvokeFrame) :
    Except Refusal Builder :=
  builder.onRoute fun frame =>
    match frame.command with
    | some (.invoke command) =>
      (change command).map fun changed => { frame with command := some (.invoke changed) }
    | some (.includes _) | none => .error (.token .usingOutsideDoes)

/-- Changes the open binding. -/
def onParam (builder : Builder) (change : ParamFrame → Except Refusal ParamFrame) :
    Except Refusal Builder :=
  builder.onInvoke fun frame =>
    match frame.param with
    | some param => (change param).map fun changed => { frame with param := some changed }
    | none => .error (.token .fromOutsideUsing)

/-- Switches the mode once a keyword has done its work. -/
def enter (mode : Mode) (builder : Builder) : Builder := { builder with mode }

/-- `IMPORT` stands before the first route. -/
def importKeyword (builder : Builder) : Except Refusal Builder :=
  match builder.mode with
  | .top | .imports => .ok (builder.enter .imports)
  | _ => .error (.token .importAfterRoute)

/-- `ROUTE` may stand anywhere; it ends the route before it. -/
def routeKeyword (builder : Builder) : Except Refusal Builder :=
  (closing builder.closeRoute).map fun closed => enter .route { closed with route := some {} }

/-- `INCLUDES` and `DOES` stand in a route and end the command before them. -/
def commandKeyword (builder : Builder) (command : CommandFrame) (mode : Mode) :
    Except Refusal Builder :=
  if builder.mode.inRoute then
    (builder.onRoute fun frame => closing (frame.openCommand command)).map (enter mode)
  else .error (.token .outsideRoute)

/-- `USING` stands in a `DOES` command and ends the binding before it. -/
def usingKeyword (builder : Builder) (place : Position) : Except Refusal Builder :=
  match builder.mode with
  | .handler | .param | .sources =>
    (builder.onInvoke fun frame => closing (frame.openParam place)).map (enter .param)
  | _ => .error (.token .usingOutsideDoes)

/-- `FROM` stands in a `USING` binding, once. -/
def fromKeyword (builder : Builder) : Except Refusal Builder :=
  match builder.mode with
  | .param => .ok (builder.enter .sources)
  | _ => .error (.token .fromOutsideUsing)

/-- A literal is a handler or the default of a binding. -/
def literalValue (builder : Builder) (text : String) : Except Refusal Builder :=
  match builder.mode with
  | .top => .error (.token .valueAtTop)
  | .handler => builder.onInvoke fun frame =>
    match frame.handler with
    | some _ => .error (.token .duplicateHandler)
    | none => .ok { frame with handler := some (.literal text) }
  | .param => builder.onParam fun frame =>
    match frame.name, frame.default with
    | none, _ => .error (.token .literalName)
    | some _, some _ => .error (.token .extraValue)
    | some _, none => .ok { frame with default := some (.literal text) }
  | .imports | .route | .includes | .sources => .error (.token .literalNotAllowed)

/-- A string fills the next place of the innermost open part. The permissive dialect takes it for
a handler too, which is then kept as a literal. -/
def stringValue (builder : Builder) (text : String) : Except Refusal Builder :=
  let value := Value.string text
  match builder.mode with
  | .top => .error (.token .valueAtTop)
  | .imports => .ok { builder with imports := value :: builder.imports }
  | .route => builder.onRoute fun frame =>
    match frame.name, frame.description with
    | none, _ => .ok { frame with name := some value }
    | some _, none => .ok { frame with description := some value }
    | some _, some _ => .error (.token .extraValue)
  | .includes => builder.onInclude fun frame =>
    match frame.name with
    | none => .ok { frame with name := some value }
    | some _ => .error (.token .extraValue)
  | .handler => builder.onInvoke fun frame =>
    match frame.handler, frame.name, builder.dialect with
    | none, _, .permissive => .ok { frame with handler := some (.literal text) }
    | none, _, .strict => .error (.token .handlerNotLiteral)
    | some _, none, _ => .ok { frame with name := some value }
    | some _, some _, _ => .error (.token .extraValue)
  | .param => builder.onParam fun frame =>
    match frame.name, frame.default with
    | none, _ => .ok { frame with name := some value }
    | some _, none => .ok { frame with default := some value }
    | some _, some _ => .error (.token .extraValue)
  | .sources => builder.onParam fun frame =>
    .ok { frame with sources := value :: frame.sources }

/-- What a token does to the document. -/
def accept (builder : Builder) (token : Token) (place : Position) : Except Refusal Builder :=
  match token with
  | .keyword .importWord => builder.importKeyword
  | .keyword .routeWord => builder.routeKeyword
  | .keyword .includesWord =>
    builder.commandKeyword (.includes { openedAt := place }) .includes
  | .keyword .includeWord =>
    match builder.dialect with
    | .permissive => builder.commandKeyword (.includes { openedAt := place }) .includes
    | .strict => builder.stringValue Keyword.includeWord.text
  | .keyword .doesWord => builder.commandKeyword (.invoke { openedAt := place }) .handler
  | .keyword .usingWord => builder.usingKeyword place
  | .keyword .fromWord => builder.fromKeyword
  | .literal text => builder.literalValue text
  | .string text => builder.stringValue text

/-- The report about a part that was left unfinished. -/
def unfinishedError (mode : Mode) (part : Unfinished) : GrammarError :=
  ⟨part.fault, mode, part.keyword.text, part.openedAt⟩

/-- Takes the next token, read at `place`. A violation is reported in the mode before it. -/
def feed (builder : Builder) (token : Token) (place : Position) : Except GrammarError Builder :=
  match builder.accept token place with
  | .ok next => .ok next
  | .error (.token fault) => .error ⟨fault, builder.mode, token.display, place⟩
  | .error (.unfinished part) => .error (unfinishedError builder.mode part)

/-- Takes tokens in order, up to the first violation. -/
def feedAll (builder : Builder) : List (Token × Position) → Except GrammarError Builder
  | [] => .ok builder
  | (token, place) :: rest =>
    match builder.feed token place with
    | .error error => .error error
    | .ok next => next.feedAll rest

/-- The document, once no more tokens come. -/
def finish (builder : Builder) : Except GrammarError Document :=
  match builder.closeRoute with
  | .error part => .error (unfinishedError builder.mode part)
  | .ok closed => .ok closed.document

end Builder

end RouteDoc
