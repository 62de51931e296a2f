import RouteDoc.Document

/-!
The values of a document in the order of the source, and what is left of a document when the texts of
strings are forgotten.
-/

namespace RouteDoc

/-- A literal as it is, and an empty text for any string. -/
def Value.outline : Value → Value
  | literal text => literal text
  | string _ => string ""

/-- The outline of a value that may be absent; a missing one is no different from a string. -/
def Value.outlineOrEmpty : Option Value → Value
  | some value => value.outline
  | none => string ""

namespace Param

/-- The values of a binding. -/
def values (param : Param) : List Value := param.name :: (param.default.toList ++ param.sources)

/-- A binding with the outlines of its values. -/
def outline (param : Param) : Param :=
  { name := param.name.outline
    default := param.default.map Value.outline
    sources := param.sources.map Value.outline }

theorem mem_values_of_default {param : Param} {value : Value} (given : value ∈ param.default) :
    value ∈ param.values := by
  simp [values, Option.mem_def.mp given]

end Param

namespace Command

/-- The values of a command. -/
def values : Command → List Value
  | includes name => [name]
  | invoke invocation => invocation.handler :: (invocation.name.toList ++ invocation.params.flatMap Param.values)

/-- A command with the outlines of its values. -/
def outline : Command → Command
  | includes name => includes name.outline
  | invoke invocation => invoke
    { handler := invocation.handler.outline
      name := some (Value.outlineOrEmpty invocation.name)
      params := invocation.params.map Param.outline }

theorem mem_values_of_param {invocation : Invoke} {param : Param} {value : Value} (member : param ∈ invocation.params)
    (held : value ∈ param.values) : value ∈ (invoke invocation).values := by
  simp only [values, List.mem_cons, List.mem_append, List.mem_flatMap]
  exact .inr (.inr ⟨param, member, held⟩)

end Command

namespace Route

/-- The values of a route. -/
def values (route : Route) : List Value :=
  route.name.toList ++ route.description.toList ++ route.commands.flatMap Command.values

/-- A route with the outlines of its values. -/
def outline (route : Route) : Route :=
  { name := some (Value.outlineOrEmpty route.name)
    description := some (Value.outlineOrEmpty route.description)
    commands := route.commands.map Command.outline }

theorem mem_values_of_command {route : Route} {command : Command} {value : Value} (member : command ∈ route.commands)
    (held : value ∈ command.values) : value ∈ route.values :=
  List.mem_append_right _ (List.mem_flatMap_of_mem member held)

end Route

namespace Document

/-- All values of a document. -/
def values (document : Document) : List Value := document.imports ++ document.routes.flatMap Route.values

/-- A document with its name and imports as they are, and with the outlines of its routes. -/
def outline (document : Document) : Document := { document with routes := document.routes.map Route.outline }

theorem mem_values_of_route {document : Document} {route : Route} {value : Value} (member : route ∈ document.routes)
    (held : value ∈ route.values) : value ∈ document.values :=
  List.mem_append_right _ (List.mem_flatMap_of_mem member held)

end Document
end RouteDoc
