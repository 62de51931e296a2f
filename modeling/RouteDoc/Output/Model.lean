import RouteDoc.Document
import RouteDoc.Output.Json

/-!
A document as JSON. Values keep their kind and commands name theirs, so nothing is lost.
-/

namespace RouteDoc

/-- A value with its kind. -/
def Value.toJson : Value → Json
  | .literal text => .object [("kind", .text "literal"), ("text", .text text)]
  | .string text => .object [("kind", .text "string"), ("text", .text text)]

/-- A value that may be absent; `null` stands for nothing. -/
def Value.optionToJson : Option Value → Json
  | none => .null
  | some value => value.toJson

/-- A binding with its name, default and sources. -/
def Param.toJson (param : Param) : Json :=
  .object [("name", param.name.toJson), ("default", Value.optionToJson param.default),
    ("sources", .list (param.sources.map Value.toJson))]

/-- A command with its type, and its fields beside that. -/
def Command.toJson : Command → Json
  | .includes name => .object [("type", .text "include"), ("name", name.toJson)]
  | .invoke invocation =>
    .object [("type", .text "invoke"), ("handler", invocation.handler.toJson),
      ("name", Value.optionToJson invocation.name),
      ("params", .list (invocation.params.map Param.toJson))]

/-- A route with its name, description and commands. -/
def Route.toJson (route : Route) : Json :=
  .object [("name", Value.optionToJson route.name),
    ("description", Value.optionToJson route.description),
    ("commands", .list (route.commands.map Command.toJson))]

/-- A whole document. -/
def Document.toJson (document : Document) : Json :=
  .object [("namespace", .text document.label),
    ("imports", .list (document.imports.map Value.toJson)),
    ("routes", .list (document.routes.map Route.toJson))]

/-- The text of a document in JSON, with a line feed at its end. -/
def Document.toJsonText (document : Document) : String := document.toJson.pretty 0 ++ "\n"

end RouteDoc
