import RouteDoc.Document.Regular
import RouteDoc.Proofs.BuilderSteps

/-! Whatever the grammar derives is regular, and so are the parts that are still open. -/

namespace RouteDoc
variable {dialect : Dialect} {tokens : List Token}

/-! An open part is regular if its places were filled in order and by values of the right kinds. -/

structure ParamFrame.Regular (frame : ParamFrame) : Prop where
  name : ∀ name ∈ frame.name, name.isLiteral = false
  named : frame.default.isSome = true → frame.name.isSome = true
  sources : ∀ source ∈ frame.sources, source.isLiteral = false

structure InvokeFrame.Regular (frame : InvokeFrame) : Prop where
  handler : ∀ handler ∈ frame.handler, handler.isLiteral = true
  name : ∀ name ∈ frame.name, name.isLiteral = false
  handled : frame.name.isSome = true → frame.handler.isSome = true
  params : ∀ param ∈ frame.params, param.Regular
  param : ∀ param ∈ frame.param, param.Regular

def CommandFrame.Regular : CommandFrame → Prop
  | .includes frame => ∀ name ∈ frame.name, name.isLiteral = false
  | .invoke frame => frame.Regular

structure RouteFrame.Regular (frame : RouteFrame) : Prop where
  name : ∀ name ∈ frame.name, name.isLiteral = false
  description : ∀ description ∈ frame.description, description.isLiteral = false
  described : frame.description.isSome = true → frame.name.isSome = true
  commands : ∀ command ∈ frame.commands, command.Regular
  command : ∀ command ∈ frame.command, command.Regular

namespace Grammar

theorem Text.isString {value : Value} (read : Text dialect tokens value) : value.isLiteral = false := by
  cases read with
  | string => rfl
  | word => rfl

theorem Handler.isLiteral {value : Value} (read : Handler dialect tokens value) : value.isLiteral = true := by
  cases read with
  | literal => rfl
  | string => rfl

theorem Perhaps.mem {part : List Token → α → Prop} {value : α} {perhaps : Option α}
    (read : Perhaps part tokens perhaps) (member : value ∈ perhaps) : part tokens value := by
  cases read with
  | absent => cases member
  | present read => cases member; exact read

theorem Many.forall {part : List Token → α → Prop} {holds : α → Prop} {values : List α}
    (many : Many part tokens values) (each : ∀ tokens value, part tokens value → holds value) :
    ∀ value ∈ values, holds value := by
  intro value member
  obtain ⟨piece, read, _⟩ := many.members value member
  exact each piece value read

theorem Many.strings {values : List Value} (many : Many (Text dialect) tokens values) :
    ∀ value ∈ values, value.isLiteral = false :=
  many.forall fun _ _ => Text.isString

theorem Sources.strings {values : List Value} (read : Sources dialect tokens values) :
    ∀ value ∈ values, value.isLiteral = false := by
  cases read with
  | absent => exact nofun
  | present many => exact many.strings

theorem Binding.regular {param : Param} (read : Binding dialect tokens param) : param.Regular := by
  cases read with
  | mk named _ sourced => exact ⟨named.isString, sourced.strings⟩

theorem Action.regular {command : Command} (read : Action dialect tokens command) : command.Regular := by
  cases read with
  | includes _ named => exact named.isString
  | invoke handled named bound =>
    refine ⟨handled.isLiteral, ?_, bound.forall fun _ _ => Binding.regular⟩
    intro name member
    exact (named.mem member).isString

theorem Group.regular {route : Route} (read : Group dialect tokens route) : route.Regular := by
  cases read with
  | mk head acted =>
    have commands := acted.forall fun _ _ => Action.regular
    cases head with
    | bare => exact ⟨nofun, nofun, nofun, commands⟩
    | named title =>
      refine ⟨?_, nofun, nofun, commands⟩
      rintro _ ⟨rfl⟩
      exact title.isString
    | described title detail =>
      refine ⟨?_, ?_, fun _ => rfl, commands⟩
      · rintro _ ⟨rfl⟩
        exact title.isString
      · rintro _ ⟨rfl⟩
        exact detail.isString

theorem Import.strings {imports : List (List Value)} (many : Many (Import dialect) tokens imports) :
    ∀ value ∈ imports.flatten, value.isLiteral = false := by
  intro value member
  obtain ⟨values, run, inside⟩ := List.mem_flatten.mp member
  obtain ⟨_, ⟨texts⟩, _⟩ := many.members values run
  exact texts.strings value inside

theorem Derives.regular {label : String} {document : Document} (read : Derives dialect label tokens document) :
    document.Regular := by
  cases read with
  | mk imported routed => exact ⟨Import.strings imported, routed.forall fun _ _ => Group.regular⟩

/-! Slots that were filled in order. -/

namespace Slots
variable {first second : List Token → Value → Prop} {value other : Option Value}

theorem firstHolds {holds : Value → Prop} (slots : Slots first second tokens value other)
    (each : ∀ tokens value, first tokens value → holds value) : ∀ held ∈ value, holds held := by
  cases slots with
  | bare => exact nofun
  | one taken => rintro _ ⟨rfl⟩; exact each _ _ taken
  | two taken _ => rintro _ ⟨rfl⟩; exact each _ _ taken

theorem secondHolds {holds : Value → Prop} (slots : Slots first second tokens value other)
    (each : ∀ tokens value, second tokens value → holds value) : ∀ held ∈ other, holds held := by
  cases slots with
  | bare => exact nofun
  | one => exact nofun
  | two _ taken => rintro _ ⟨rfl⟩; exact each _ _ taken

theorem inOrder (slots : Slots first second tokens value other) :
    other.isSome = true → value.isSome = true := by
  cases slots with
  | bare => exact nofun
  | one => exact nofun
  | two => exact fun _ => rfl

end Slots

variable {mode : Mode}

private theorem forall_mem_of_reverse {holds : α → Prop} {values : List α}
    (each : ∀ value ∈ values.reverse, holds value) : ∀ value ∈ values, holds value := by
  intro value member
  exact each value (List.mem_reverse.mpr member)

theorem OpenBinding.regular {frame : ParamFrame} (opened : OpenBinding dialect tokens mode frame) :
    frame.Regular := by
  cases opened with
  | filling slots => exact ⟨slots.firstHolds fun _ _ => Text.isString, slots.inOrder, nofun⟩
  | sourcing slots many =>
    exact ⟨slots.firstHolds fun _ _ => Text.isString, slots.inOrder, forall_mem_of_reverse many.strings⟩

theorem OpenInvocation.regular {frame : InvokeFrame} (opened : OpenInvocation dialect tokens mode frame) :
    frame.Regular := by
  cases opened with
  | filling slots =>
    exact ⟨slots.firstHolds fun _ _ => Handler.isLiteral, slots.secondHolds fun _ _ => Text.isString,
      slots.inOrder, nofun, nofun⟩
  | binding settled binding =>
    cases settled with
    | mk slots many =>
      refine ⟨slots.firstHolds fun _ _ => Handler.isLiteral, slots.secondHolds fun _ _ => Text.isString,
        slots.inOrder, forall_mem_of_reverse (many.forall fun _ _ => Binding.regular), ?_⟩
      rintro _ ⟨rfl⟩
      exact binding.regular

theorem OpenCommand.regular {frame : CommandFrame} (opened : OpenCommand dialect tokens mode frame) :
    frame.Regular := by
  cases opened with
  | includes _ named => exact fun _ member => (named.mem member).isString
  | invoke opened => exact opened.regular

theorem OpenGroup.regular {frame : RouteFrame} (opened : OpenGroup dialect tokens mode frame) :
    frame.Regular := by
  cases opened with
  | filling slots =>
    exact ⟨slots.firstHolds fun _ _ => Text.isString, slots.secondHolds fun _ _ => Text.isString,
      slots.inOrder, nofun, fun _ absent => nomatch absent⟩
  | acting settled command =>
    cases settled with
    | mk slots many =>
      refine ⟨slots.firstHolds fun _ _ => Text.isString, slots.secondHolds fun _ _ => Text.isString,
        slots.inOrder, forall_mem_of_reverse (many.forall fun _ _ => Action.regular), ?_⟩
      rintro _ ⟨rfl⟩
      exact command.regular

theorem Settled.regular {label : String} {builder : Builder} (settled : Settled dialect label tokens builder) :
    (∀ value ∈ builder.imports, value.isLiteral = false) ∧ ∀ route ∈ builder.routes, route.Regular := by
  cases settled with
  | mk imported routed =>
    refine ⟨?_, forall_mem_of_reverse (routed.forall fun _ _ => Group.regular)⟩
    apply forall_mem_of_reverse
    simpa using Import.strings imported

end Grammar
end RouteDoc
