import RouteDoc.Document

/-!
Which kind of value belongs in which place. Handlers are literals, a default is either kind, and
everything else is a string; a description does not come without a name.
-/

namespace RouteDoc

/-- A binding whose name and sources are strings. -/
structure Param.Regular (param : Param) : Prop where
  name : param.name.isLiteral = false
  sources : ∀ source ∈ param.sources, source.isLiteral = false

/-- An invocation of a literal handler, with a string for its name and regular bindings. -/
structure Invoke.Regular (invocation : Invoke) : Prop where
  handler : invocation.handler.isLiteral = true
  name : ∀ name ∈ invocation.name, name.isLiteral = false
  params : ∀ param ∈ invocation.params, param.Regular

/-- A command that names a route by a string, or that is a regular invocation. -/
def Command.Regular : Command → Prop
  | .includes name => name.isLiteral = false
  | .invoke invocation => invocation.Regular

/-- A route with strings for its name and description, and with regular commands. -/
structure Route.Regular (route : Route) : Prop where
  name : ∀ name ∈ route.name, name.isLiteral = false
  description : ∀ description ∈ route.description, description.isLiteral = false
  described : route.description.isSome = true → route.name.isSome = true
  commands : ∀ command ∈ route.commands, command.Regular

/-- A document of strings for imports and of regular routes. -/
structure Document.Regular (document : Document) : Prop where
  imports : ∀ value ∈ document.imports, value.isLiteral = false
  routes : ∀ route ∈ document.routes, route.Regular

end RouteDoc
