import RouteDoc.Output.Decoding
import RouteDoc.Proofs.JsonTexts

/-! The JSON text of a document is the text of one value, and that value is decoded to the document again, so no
two documents share a text. -/

namespace RouteDoc
open Json

theorem Json.items?_list {α : Type} {read : Json → Option α} {write : α → Json} {values : List α}
    (each : ∀ value ∈ values, read (write value) = some value) :
    Json.items? read (.list (values.map write)) = some values := by
  rw [Json.items?]
  induction values with
  | nil => rfl
  | cons value values ih =>
    obtain ⟨first, others⟩ := List.forall_mem_cons.mp each
    rw [List.map_cons, List.mapM_cons, first, ih others]
    rfl

theorem Value.ofJson?_toJson (value : Value) : ofJson? value.toJson = some value := by
  cases value <;> rfl

theorem Value.optionOfJson?_toJson (value : Option Value) : optionOfJson? (optionToJson value) = some value := by
  cases value with
  | none => rfl
  | some given => cases given <;> rfl

theorem Param.ofJson?_toJson (param : Param) : ofJson? param.toJson = some param := by
  have sources := @Json.items?_list _ _ _ param.sources fun value _ => Value.ofJson?_toJson value
  simp [ofJson?, toJson, field?, Keyed.get?, Value.ofJson?_toJson, Value.optionOfJson?_toJson, sources]

theorem Command.ofJson?_toJson (command : Command) : ofJson? command.toJson = some command := by
  cases command with
  | includes name => simp [ofJson?, toJson, field?, Keyed.get?, content?, Value.ofJson?_toJson]
  | invoke invocation =>
    have params := @Json.items?_list _ _ _ invocation.params fun param _ => Param.ofJson?_toJson param
    simp [ofJson?, toJson, field?, Keyed.get?, content?, Value.ofJson?_toJson, Value.optionOfJson?_toJson, params]

theorem Route.ofJson?_toJson (route : Route) : ofJson? route.toJson = some route := by
  have commands := @Json.items?_list _ _ _ route.commands fun command _ => Command.ofJson?_toJson command
  simp [ofJson?, toJson, field?, Keyed.get?, Value.optionOfJson?_toJson, commands]

theorem Document.ofJson?_toJson (document : Document) : ofJson? document.toJson = some document := by
  have imports := @Json.items?_list _ _ _ document.imports fun value _ => Value.ofJson?_toJson value
  have routes := @Json.items?_list _ _ _ document.routes fun route _ => Route.ofJson?_toJson route
  simp [ofJson?, toJson, field?, Keyed.get?, content?, imports, routes]

theorem Document.written_toJsonText (document : Document) :
    Json.Written document.toJson document.toJsonText.toList ['\n'] := by
  rw [toJsonText, String.toList_append]
  exact written_pretty document.toJson 0 ['\n']

/-- The text is one value before a line feed, whatever value is read from it is decoded to the document, and
the text belongs to no other document. -/
theorem Document.toJsonText_faithful (document : Document) :
    (∃ json, Json.Written json document.toJsonText.toList ['\n']) ∧
      (∀ json rest, Json.Written json document.toJsonText.toList rest →
        rest = ['\n'] ∧ ofJson? json = some document) ∧
      ∀ other : Document, other.toJsonText = document.toJsonText → other = document := by
  have written := document.written_toJsonText
  refine ⟨⟨_, written⟩, ?_, ?_⟩
  · intro json rest read
    obtain ⟨rfl, rfl⟩ := Json.Written.unique _ _ _ _ _ written read
    exact ⟨rfl, document.ofJson?_toJson⟩
  · intro other same
    have alike := other.written_toJsonText
    rw [same] at alike
    obtain ⟨values, _⟩ := Json.Written.unique _ _ _ _ _ alike written
    have decoded := congrArg ofJson? values
    rw [other.ofJson?_toJson, document.ofJson?_toJson] at decoded
    exact Option.some.inj decoded

end RouteDoc
