import RouteDoc.Document.Check

/-!
The complete list of expectations that a document meets: one for each part that it has, and one for
each part that it lacks.
-/

namespace RouteDoc

/-- The checks of a default: it is there with its kind and text, or it is absent. -/
def Value.defaultCheck : Option Value → ParamCheck
  | none => .noDefault
  | some (.string text) => .defaultString text
  | some (.literal text) => .defaultLiteral text

/-- The checks of a binding. -/
def Param.profile (param : Param) : List ParamCheck :=
  [.name param.name.text, Value.defaultCheck param.default,
    .sources (param.sources.map Value.text)]

/-- Checks of numbered parts, in their order. -/
def Check.numbered {α β : Type} (check : Nat → α → β) (parts : List α) : List β :=
  parts.zipIdx.map fun (part, index) => check index part

/-- The checks of an invocation. -/
def Invoke.profile (invoke : Invoke) : List InvokeCheck :=
  let name := match invoke.name with
    | none => .noDisplayName
    | some name => .displayName name.text
  [.handler invoke.handler.text, name, .paramCount invoke.params.length] ++
    Check.numbered (fun index param => .param index param.profile) invoke.params

/-- The check of a command. -/
def Command.profile : Command → CommandCheck
  | includes name => .includes [.name name.text]
  | invoke invocation => .invoke invocation.profile

/-- The checks of a route. -/
def Route.profile (route : Route) : List RouteCheck :=
  let name := match route.name with
    | none => .noName
    | some name => .name name.text
  let description := match route.description with
    | none => .noDescription
    | some description => .description description.text
  [name, description, .commandCount route.commands.length] ++
    Check.numbered (fun index command => .command index command.profile) route.commands

/-- The checks of a document. -/
def Document.profile (document : Document) : List DocumentCheck :=
  [.label document.label, .importCount document.imports.length] ++
    Check.numbered (fun index value => .import_ index value.code) document.imports ++
    [.routeCount document.routes.length] ++
    Check.numbered (fun index route => .route index route.profile) document.routes

end RouteDoc
