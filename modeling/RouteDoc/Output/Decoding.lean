import RouteDoc.Keyed
import RouteDoc.Output.Model

/-!
Documents from JSON. Fields are found by their names, wherever they stand in their object.
-/

namespace RouteDoc

namespace Json

/-- The value of a field. -/
def field? (json : Json) (key : String) : Option Json :=
  match json with
  | object fields => Keyed.get? fields key
  | _ => none

/-- The content of a text. -/
def content? : Json → Option String
  | text content => some content
  | _ => none

/-- The items of a list, each of them read. -/
def items? {α : Type} (read : Json → Option α) : Json → Option (List α)
  | list items => items.mapM read
  | _ => none

end Json

/-- A value of the kind that it names. -/
def Value.ofJson? (json : Json) : Option Value := do
  let kind ← (← json.field? "kind").content?
  let text ← (← json.field? "text").content?
  match kind with
  | "literal" => some (.literal text)
  | "string" => some (.string text)
  | _ => none

/-- A value that may be absent. -/
def Value.optionOfJson? : Json → Option (Option Value)
  | .null => some none
  | json => (Value.ofJson? json).map some

/-- A binding. -/
def Param.ofJson? (json : Json) : Option Param := do
  let name ← Value.ofJson? (← json.field? "name")
  let default ← Value.optionOfJson? (← json.field? "default")
  let sources ← (← json.field? "sources").items? Value.ofJson?
  return { name, default, sources }

/-- A command of the type that it names. -/
def Command.ofJson? (json : Json) : Option Command := do
  match ← (← json.field? "type").content? with
  | "include" => return .includes (← Value.ofJson? (← json.field? "name"))
  | "invoke" =>
    let handler ← Value.ofJson? (← json.field? "handler")
    let name ← Value.optionOfJson? (← json.field? "name")
    let params ← (← json.field? "params").items? Param.ofJson?
    return .invoke { handler, name, params }
  | _ => none

/-- A route. -/
def Route.ofJson? (json : Json) : Option Route := do
  let name ← Value.optionOfJson? (← json.field? "name")
  let description ← Value.optionOfJson? (← json.field? "description")
  let commands ← (← json.field? "commands").items? Command.ofJson?
  return { name, description, commands }

/-- A whole document. -/
def Document.ofJson? (json : Json) : Option Document := do
  let label ← (← json.field? "namespace").content?
  let imports ← (← json.field? "imports").items? Value.ofJson?
  let routes ← (← json.field? "routes").items? Route.ofJson?
  return { label, imports, routes }

end RouteDoc
