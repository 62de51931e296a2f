import RouteDoc.Grammar.Builder

/-! A builder that goes on after closed parts, on tokens that stand elsewhere, does what a builder does that
knows of no other parts: what is closed is never looked at again, and places are only kept for reports. -/

namespace RouteDoc

/-- An outcome with its failure and its result each carried over. -/
def carried {ε δ α β : Type} (failure : ε → δ) (value : α → β) : Except ε α → Except δ β
  | .error error => .error (failure error)
  | .ok result => .ok (value result)

theorem map_carried {ε δ α β γ κ : Type} {failure : ε → δ} {value : α → β} {after : γ → κ} {first : α → γ}
    {second : β → κ} (same : ∀ result, second (value result) = after (first result)) (outcome : Except ε α) :
    (carried failure value outcome).map second = carried failure after (outcome.map first) := by
  cases outcome with
  | error _ => rfl
  | ok result => exact congrArg Except.ok (same result)

section
variable (move : Position → Position)

def ParamFrame.moved (frame : ParamFrame) : ParamFrame := { frame with openedAt := move frame.openedAt }

def IncludeFrame.moved (frame : IncludeFrame) : IncludeFrame := { frame with openedAt := move frame.openedAt }

def InvokeFrame.moved (frame : InvokeFrame) : InvokeFrame :=
  { frame with openedAt := move frame.openedAt, param := frame.param.map (ParamFrame.moved move) }

def CommandFrame.moved : CommandFrame → CommandFrame
  | .includes frame => .includes (frame.moved move)
  | .invoke frame => .invoke (frame.moved move)

def RouteFrame.moved (frame : RouteFrame) : RouteFrame :=
  { frame with command := frame.command.map (CommandFrame.moved move) }

def Unfinished.moved (part : Unfinished) : Unfinished := { part with openedAt := move part.openedAt }

def Refusal.moved : Refusal → Refusal
  | .token fault => .token fault
  | .unfinished part => .unfinished (part.moved move)

def GrammarError.moved (error : GrammarError) : GrammarError := { error with position := move error.position }

/-- The builder with all that was closed earlier before what it closed itself, and with its open parts
opened elsewhere. -/
def Builder.after (earlier builder : Builder) : Builder :=
  { builder with
    imports := builder.imports ++ earlier.imports
    routes := builder.routes ++ earlier.routes
    route := builder.route.map (RouteFrame.moved move) }

end

variable {move : Position → Position}

/-! Closing a part. -/

theorem ParamFrame.close_moved (frame : ParamFrame) :
    (frame.moved move).close = carried (Unfinished.moved move) id frame.close := by
  cases named : frame.name <;> simp [close, moved, named, carried, Unfinished.moved]

theorem InvokeFrame.closeParam_moved (frame : InvokeFrame) :
    (frame.moved move).closeParam = carried (Unfinished.moved move) (InvokeFrame.moved move) frame.closeParam := by
  cases opened : frame.param with
  | none => simp [closeParam, moved, opened, carried]
  | some param =>
    simp only [closeParam, moved, opened, Option.map_some]
    rw [param.close_moved]
    apply map_carried
    exact fun _ => rfl

theorem InvokeFrame.close_moved (frame : InvokeFrame) :
    (frame.moved move).close = carried (Unfinished.moved move) id frame.close := by
  simp only [close, closeParam_moved]
  cases frame.closeParam with
  | error _ => rfl
  | ok closed =>
    cases handled : closed.handler <;> simp [carried, moved, handled, Unfinished.moved]

theorem CommandFrame.close_moved (frame : CommandFrame) :
    (frame.moved move).close = carried (Unfinished.moved move) id frame.close := by
  cases frame with
  | includes frame =>
    cases named : frame.name <;>
      simp [close, moved, IncludeFrame.moved, IncludeFrame.close, named, carried, Except.map, Unfinished.moved]
  | invoke frame =>
    simp only [close, moved]
    rw [frame.close_moved]
    apply map_carried
    exact fun _ => rfl

theorem RouteFrame.closeCommand_moved (frame : RouteFrame) :
    (frame.moved move).closeCommand = carried (Unfinished.moved move) (RouteFrame.moved move) frame.closeCommand := by
  cases opened : frame.command with
  | none => simp [closeCommand, moved, opened, carried]
  | some command =>
    simp only [closeCommand, moved, opened, Option.map_some]
    rw [command.close_moved]
    apply map_carried
    exact fun _ => rfl

theorem RouteFrame.close_moved (frame : RouteFrame) :
    (frame.moved move).close = carried (Unfinished.moved move) id frame.close := by
  simp only [close, closeCommand_moved]
  apply map_carried
  exact fun _ => rfl

namespace Builder
variable {earlier : Builder}

theorem closing_carried {α : Type} {value : α → α} (outcome : Except Unfinished α) :
    closing (carried (Unfinished.moved move) value outcome) = carried (Refusal.moved move) value (closing outcome) := by
  cases outcome with
  | error _ => rfl
  | ok _ => rfl

theorem closeRoute_after (builder : Builder) :
    (after move earlier builder).closeRoute =
      carried (Unfinished.moved move) (after move earlier) builder.closeRoute := by
  cases opened : builder.route with
  | none => simp [closeRoute, after, opened, carried]
  | some frame =>
    simp only [closeRoute, after, opened, Option.map_some]
    rw [frame.close_moved]
    apply map_carried
    exact fun _ => rfl

/-! Changing an open part. -/

theorem onRoute_after {change other : RouteFrame → Except Refusal RouteFrame}
    (same : ∀ frame, other (frame.moved move) = carried (Refusal.moved move) (RouteFrame.moved move) (change frame))
    (builder : Builder) :
    (after move earlier builder).onRoute other =
      carried (Refusal.moved move) (after move earlier) (builder.onRoute change) := by
  cases opened : builder.route with
  | none => simp [onRoute, after, opened, carried, Refusal.moved]
  | some frame =>
    simp only [onRoute, after, opened, Option.map_some]
    rw [same]
    apply map_carried
    exact fun _ => rfl

theorem onInclude_after {change : IncludeFrame → Except Refusal IncludeFrame}
    (same : ∀ frame, change (frame.moved move) =
      carried (Refusal.moved move) (IncludeFrame.moved move) (change frame)) (builder : Builder) :
    (after move earlier builder).onInclude change =
      carried (Refusal.moved move) (after move earlier) (builder.onInclude change) := by
  apply onRoute_after
  intro frame
  match opened : frame.command with
  | none => simp [RouteFrame.moved, opened, carried, Refusal.moved]
  | some (.invoke _) => simp [RouteFrame.moved, opened, CommandFrame.moved, carried, Refusal.moved]
  | some (.includes inner) =>
    simp only [RouteFrame.moved, opened, Option.map_some, CommandFrame.moved]
    rw [same]
    apply map_carried
    exact fun _ => rfl

theorem onInvoke_after {change other : InvokeFrame → Except Refusal InvokeFrame}
    (same : ∀ frame, other (frame.moved move) = carried (Refusal.moved move) (InvokeFrame.moved move) (change frame))
    (builder : Builder) :
    (after move earlier builder).onInvoke other =
      carried (Refusal.moved move) (after move earlier) (builder.onInvoke change) := by
  apply onRoute_after
  intro frame
  match opened : frame.command with
  | none => simp [RouteFrame.moved, opened, carried, Refusal.moved]
  | some (.includes _) => simp [RouteFrame.moved, opened, CommandFrame.moved, carried, Refusal.moved]
  | some (.invoke inner) =>
    simp only [RouteFrame.moved, opened, Option.map_some, CommandFrame.moved]
    rw [same]
    apply map_carried
    exact fun _ => rfl

theorem onParam_after {change : ParamFrame → Except Refusal ParamFrame}
    (same : ∀ frame, change (frame.moved move) = carried (Refusal.moved move) (ParamFrame.moved move) (change frame))
    (builder : Builder) :
    (after move earlier builder).onParam change =
      carried (Refusal.moved move) (after move earlier) (builder.onParam change) := by
  apply onInvoke_after
  intro frame
  cases opened : frame.param with
  | none => simp [InvokeFrame.moved, opened, carried, Refusal.moved]
  | some param =>
    simp only [InvokeFrame.moved, opened, Option.map_some]
    rw [same]
    apply map_carried
    exact fun _ => rfl

/-! Keywords and values. -/

theorem commandKeyword_after (command : Position → CommandFrame) {mode : Mode} {place : Position}
    (same : command (move place) = (command place).moved move) (builder : Builder) :
    (after move earlier builder).commandKeyword (command (move place)) mode =
      carried (Refusal.moved move) (after move earlier) (builder.commandKeyword (command place) mode) := by
  have opens : ((after move earlier builder).onRoute fun frame => closing (frame.openCommand (command (move place)))) =
      carried (Refusal.moved move) (after move earlier)
        (builder.onRoute fun frame => closing (frame.openCommand (command place))) := by
    apply onRoute_after
    intro frame
    rw [← closing_carried, RouteFrame.openCommand, RouteFrame.closeCommand_moved]
    apply congrArg closing
    apply map_carried
    intro closed
    simp [RouteFrame.moved, same]
  have kept : (after move earlier builder).mode = builder.mode := rfl
  unfold commandKeyword
  rw [kept]
  split
  next =>
    rw [opens]
    apply map_carried
    exact fun _ => rfl
  next => rfl

theorem usingKeyword_after (place : Position) (builder : Builder) :
    (after move earlier builder).usingKeyword (move place) =
      carried (Refusal.moved move) (after move earlier) (builder.usingKeyword place) := by
  have opens : ((after move earlier builder).onInvoke fun frame => closing (frame.openParam (move place))) =
      carried (Refusal.moved move) (after move earlier)
        (builder.onInvoke fun frame => closing (frame.openParam place)) := by
    apply onInvoke_after
    intro frame
    rw [← closing_carried, InvokeFrame.openParam, InvokeFrame.closeParam_moved]
    apply congrArg closing
    apply map_carried
    exact fun _ => rfl
  have kept : (after move earlier builder).mode = builder.mode := rfl
  unfold usingKeyword
  rw [kept]
  cases builder.mode with
  | handler | param | sources =>
    simp only [opens]
    apply map_carried
    exact fun _ => rfl
  | top | imports | route | includes => rfl

theorem literalValue_after (text : String) (builder : Builder) :
    (after move earlier builder).literalValue text =
      carried (Refusal.moved move) (after move earlier) (builder.literalValue text) := by
  have kept : (after move earlier builder).mode = builder.mode := rfl
  unfold literalValue
  rw [kept]
  cases builder.mode with
  | handler =>
    apply onInvoke_after
    intro frame
    cases handled : frame.handler <;> simp [InvokeFrame.moved, handled, carried, Refusal.moved]
  | param =>
    apply onParam_after
    intro frame
    cases named : frame.name <;> cases given : frame.default <;>
      simp [ParamFrame.moved, named, given, carried, Refusal.moved]
  | top | imports | route | includes | sources => rfl

theorem stringValue_after (text : String) (builder : Builder) :
    (after move earlier builder).stringValue text =
      carried (Refusal.moved move) (after move earlier) (builder.stringValue text) := by
  have kept : (after move earlier builder).mode = builder.mode := rfl
  have spoken : (after move earlier builder).dialect = builder.dialect := rfl
  unfold stringValue
  rw [kept, spoken]
  cases builder.mode with
  | top | imports => rfl
  | route =>
    apply onRoute_after
    intro frame
    cases named : frame.name <;> cases described : frame.description <;>
      simp [RouteFrame.moved, named, described, carried, Refusal.moved]
  | includes =>
    apply onInclude_after
    intro frame
    cases named : frame.name <;> simp [IncludeFrame.moved, named, carried, Refusal.moved]
  | handler =>
    apply onInvoke_after
    intro frame
    cases handled : frame.handler <;> cases named : frame.name <;> cases builder.dialect <;>
      simp [InvokeFrame.moved, handled, named, carried, Refusal.moved]
  | param =>
    apply onParam_after
    intro frame
    cases named : frame.name <;> cases given : frame.default <;>
      simp [ParamFrame.moved, named, given, carried, Refusal.moved]
  | sources =>
    apply onParam_after
    exact fun _ => rfl

/-! One token, any number of tokens, and the end. -/

theorem accept_after (token : Token) (place : Position) (builder : Builder) :
    (after move earlier builder).accept token (move place) =
      carried (Refusal.moved move) (after move earlier) (builder.accept token place) := by
  have includes : (after move earlier builder).commandKeyword (.includes { openedAt := move place }) .includes =
      carried (Refusal.moved move) (after move earlier)
        (builder.commandKeyword (.includes { openedAt := place }) .includes) :=
    commandKeyword_after (fun place => .includes { openedAt := place }) rfl builder
  cases token with
  | literal text => exact literalValue_after text builder
  | string text => exact stringValue_after text builder
  | keyword word =>
    cases word with
    | importWord =>
      have kept : (after move earlier builder).mode = builder.mode := rfl
      simp only [accept, importKeyword, kept]
      cases builder.mode <;> rfl
    | routeWord =>
      simp only [accept, routeKeyword]
      rw [closeRoute_after, closing_carried]
      apply map_carried
      exact fun _ => rfl
    | includesWord => exact includes
    | includeWord =>
      have spoken : (after move earlier builder).dialect = builder.dialect := rfl
      simp only [accept, spoken]
      cases builder.dialect with
      | permissive => exact includes
      | strict => exact stringValue_after _ builder
    | doesWord => exact commandKeyword_after (fun place => .invoke { openedAt := place }) rfl builder
    | usingWord => exact usingKeyword_after place builder
    | fromWord =>
      have kept : (after move earlier builder).mode = builder.mode := rfl
      simp only [accept, fromKeyword, kept]
      cases builder.mode <;> rfl

theorem feed_after (token : Token) (place : Position) (builder : Builder) :
    (after move earlier builder).feed token (move place) =
      carried (GrammarError.moved move) (after move earlier) (builder.feed token place) := by
  simp only [feed, accept_after]
  cases builder.accept token place with
  | ok _ => rfl
  | error refusal => cases refusal <;> rfl

theorem feedAll_after (placed : List (Token × Position)) (builder : Builder) :
    (after move earlier builder).feedAll (placed.map fun (token, place) => (token, move place)) =
      carried (GrammarError.moved move) (after move earlier) (builder.feedAll placed) := by
  induction placed generalizing builder with
  | nil => rfl
  | cons first rest ih =>
    obtain ⟨token, place⟩ := first
    simp only [List.map_cons, feedAll, feed_after]
    cases builder.feed token place with
    | error _ => rfl
    | ok next => exact ih next

theorem finish_after (builder : Builder) :
    (after move earlier builder).finish =
      carried (GrammarError.moved move)
        (fun document => ⟨document.label, earlier.imports.reverse ++ document.imports,
          earlier.routes.reverse ++ document.routes⟩) builder.finish := by
  simp only [finish, closeRoute_after]
  cases builder.closeRoute with
  | error _ => rfl
  | ok closed => simp [carried, document, after]

end Builder
end RouteDoc
