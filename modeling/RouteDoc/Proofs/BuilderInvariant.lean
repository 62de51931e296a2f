import RouteDoc.Proofs.RegularParts

/-! What every builder is like that tokens lead to. The mode is that of the last keyword, and it tells
which parts are open; no value stands in a place that is not its own. An operation therefore finds the
part that it works on, and only the mode can make a keyword come at the wrong place. -/

namespace RouteDoc

/-- The mode that a token switches to, if it is a keyword of the dialect. -/
def Token.mode? (dialect : Dialect) : Token → Option Mode
  | .keyword .importWord => some .imports
  | .keyword .routeWord => some .route
  | .keyword .includesWord => some .includes
  | .keyword .includeWord =>
    match dialect with
    | .permissive => some .includes
    | .strict => none
  | .keyword .doesWord => some .handler
  | .keyword .usingWord => some .param
  | .keyword .fromWord => some .sources
  | .literal _ | .string _ => none

/-- The mode of the last keyword, or `top` if there is no keyword. -/
def lastMode (dialect : Dialect) (tokens : List Token) : Mode :=
  (tokens.filterMap (Token.mode? dialect)).getLast?.getD .top

/-- Whether a mode belongs to a binding. -/
def Mode.inParam (mode : Mode) : Prop := mode = .param ∨ mode = .sources

/-- Whether a mode belongs to an invocation. -/
def Mode.inInvoke (mode : Mode) : Prop := mode = .handler ∨ mode.inParam

/-- The open parts are those that the mode asks for, and all parts are regular. -/
structure Builder.Coherent (builder : Builder) : Prop where
  routeOpen : builder.route.isSome = true ↔ builder.mode.inRoute = true
  noCommand : builder.mode = .route → ∀ frame ∈ builder.route, frame.command = none
  includeOpen : builder.mode = .includes → ∀ frame ∈ builder.route, ∃ opened,
    frame.command = some (.includes opened)
  invokeOpen : builder.mode.inInvoke → ∀ frame ∈ builder.route, ∃ opened,
    frame.command = some (.invoke opened) ∧ (opened.param.isSome = true ↔ builder.mode.inParam)
  imports : ∀ value ∈ builder.imports, value.isLiteral = false
  routes : ∀ route ∈ builder.routes, route.Regular
  route : ∀ frame ∈ builder.route, frame.Regular

namespace Grammar
variable {dialect : Dialect} {label : String} {tokens : List Token} {mode : Mode}

/-! Which parts are open. -/

theorem OpenBinding.inParam {frame : ParamFrame} (opened : OpenBinding dialect tokens mode frame) :
    mode.inParam := by
  cases opened with
  | filling => exact .inl rfl
  | sourcing => exact .inr rfl

theorem OpenInvocation.opens {frame : InvokeFrame} (opened : OpenInvocation dialect tokens mode frame) :
    mode.inInvoke ∧ (frame.param.isSome = true ↔ mode.inParam) := by
  cases opened with
  | filling =>
    refine ⟨.inl rfl, nofun, ?_⟩
    intro inside
    obtain same | same := inside <;> cases same
  | binding _ binding => exact ⟨.inr binding.inParam, fun _ => binding.inParam, fun _ => rfl⟩

theorem OpenCommand.opens {frame : CommandFrame} (opened : OpenCommand dialect tokens mode frame) :
    (mode = .includes ∧ ∃ inner, frame = .includes inner) ∨
      (mode.inInvoke ∧ ∃ inner, frame = .invoke inner ∧ (inner.param.isSome = true ↔ mode.inParam)) := by
  cases opened with
  | includes => exact .inl ⟨rfl, _, rfl⟩
  | invoke opened => exact .inr ⟨opened.opens.1, _, rfl, opened.opens.2⟩

theorem includes_not_inInvoke : ¬ Mode.includes.inInvoke := by
  rintro (same | same | same) <;> cases same

theorem route_not_inInvoke : ¬ Mode.route.inInvoke := by
  rintro (same | same | same) <;> cases same

theorem OpenGroup.opens {frame : RouteFrame} (opened : OpenGroup dialect tokens mode frame) :
    (mode = .route → frame.command = none) ∧
      (mode = .includes → ∃ inner, frame.command = some (.includes inner)) ∧
      (mode.inInvoke → ∃ inner, frame.command = some (.invoke inner) ∧
        (inner.param.isSome = true ↔ mode.inParam)) := by
  cases opened with
  | filling => exact ⟨fun _ => rfl, nofun, fun inside => absurd inside route_not_inInvoke⟩
  | acting _ command =>
    refine ⟨fun outside => absurd outside command.inRoute.2, ?_, ?_⟩
    · intro standing
      obtain ⟨_, inner, rfl⟩ | ⟨inside, _⟩ := command.opens
      · exact ⟨inner, rfl⟩
      · exact absurd (standing ▸ inside) includes_not_inInvoke
    · intro inside
      obtain ⟨standing, _⟩ | ⟨_, inner, rfl, param⟩ := command.opens
      · exact absurd (standing ▸ inside) includes_not_inInvoke
      · exact ⟨inner, rfl, param⟩

theorem coherent_outside {builder : Builder} (closed : builder.route = none) (outside : builder.mode.inRoute = false)
    (imports : ∀ value ∈ builder.imports, value.isLiteral = false)
    (routes : ∀ route ∈ builder.routes, route.Regular) : builder.Coherent := by
  have none_open (holds : RouteFrame → Prop) : ∀ frame ∈ builder.route, holds frame := by
    rw [closed]
    exact fun _ absent => nomatch absent
  refine ⟨?_, fun _ => none_open _, fun _ => none_open _, fun _ => none_open _, imports, routes, none_open _⟩
  rw [closed, outside]
  exact ⟨nofun, nofun⟩

theorem Reached.coherent {builder : Builder} (reached : Reached dialect label tokens builder) :
    builder.Coherent := by
  cases reached with
  | top =>
    exact coherent_outside rfl rfl (List.forall_mem_nil _) (List.forall_mem_nil _)
  | importing imported many =>
    apply coherent_outside rfl rfl
    · intro value member
      obtain earlier | latest := List.mem_append.mp (List.mem_reverse.mp member)
      · exact Import.strings imported value earlier
      · exact many.strings value latest
    · exact List.forall_mem_nil _
  | routing settled group =>
    obtain ⟨route, includes, invoke⟩ := group.opens
    obtain ⟨imports, routes⟩ := settled.regular
    refine ⟨⟨fun _ => group.inRoute, fun _ => rfl⟩, ?_, ?_, ?_, imports, routes, ?_⟩
    · rintro standing _ ⟨rfl⟩
      exact route standing
    · rintro standing _ ⟨rfl⟩
      exact includes standing
    · rintro inside _ ⟨rfl⟩
      exact invoke inside
    · rintro _ ⟨rfl⟩
      exact group.regular

end Grammar

/-! The mode after a token is that of the token, if it is a keyword, and else that before it. -/

namespace Builder
variable {builder next : Builder} {token : Token} {place : Position}

theorem onRoute_mode {change : RouteFrame → Except Refusal RouteFrame} (ran : builder.onRoute change = .ok next) :
    next.mode = builder.mode ∧ next.dialect = builder.dialect := by
  unfold onRoute at ran
  split at ran
  next => cases ran
  next =>
    obtain ⟨changed, _, rfl⟩ := Grammar.ok_of_map ran
    exact ⟨rfl, rfl⟩

theorem closeRoute_dialect (ran : builder.closeRoute = .ok next) : next.dialect = builder.dialect := by
  unfold closeRoute at ran
  split at ran
  next => cases ran; rfl
  next =>
    obtain ⟨route, _, rfl⟩ := Grammar.ok_of_map ran
    rfl

theorem literalValue_mode {text : String} (ran : builder.literalValue text = .ok next) :
    next.mode = builder.mode ∧ next.dialect = builder.dialect := by
  unfold literalValue at ran
  split at ran
  next => cases ran
  next => exact onRoute_mode ran
  next => exact onRoute_mode ran
  all_goals cases ran

theorem stringValue_mode {text : String} (ran : builder.stringValue text = .ok next) :
    next.mode = builder.mode ∧ next.dialect = builder.dialect := by
  unfold stringValue at ran
  split at ran
  next => cases ran
  next => cases ran; exact ⟨rfl, rfl⟩
  all_goals exact onRoute_mode ran

theorem commandKeyword_mode {command : CommandFrame} {mode : Mode}
    (ran : builder.commandKeyword command mode = .ok next) :
    next.mode = mode ∧ next.dialect = builder.dialect := by
  unfold commandKeyword at ran
  split at ran
  next =>
    obtain ⟨changed, opened, rfl⟩ := Grammar.ok_of_map ran
    exact ⟨rfl, (onRoute_mode opened).2⟩
  next => cases ran

theorem usingKeyword_mode (ran : builder.usingKeyword place = .ok next) :
    next.mode = .param ∧ next.dialect = builder.dialect := by
  unfold usingKeyword at ran
  split at ran
  iterate 3
    next =>
      obtain ⟨changed, opened, rfl⟩ := Grammar.ok_of_map ran
      exact ⟨rfl, (onRoute_mode opened).2⟩
  next => cases ran

theorem accept_mode (accepted : builder.accept token place = .ok next) :
    next.mode = (token.mode? builder.dialect).getD builder.mode ∧ next.dialect = builder.dialect := by
  cases token with
  | literal text => exact literalValue_mode accepted
  | string text => exact stringValue_mode accepted
  | keyword word =>
    cases word with
    | importWord =>
      simp only [accept, importKeyword] at accepted
      split at accepted
      next => cases accepted; exact ⟨rfl, rfl⟩
      next => cases accepted; exact ⟨rfl, rfl⟩
      next => cases accepted
    | routeWord =>
      obtain ⟨closed, closing, rfl⟩ := Grammar.ok_of_map accepted
      have spoken : closed.dialect = builder.dialect := closeRoute_dialect (Grammar.ok_of_closing closing)
      exact ⟨rfl, spoken⟩
    | includesWord => exact commandKeyword_mode accepted
    | includeWord =>
      simp only [accept] at accepted
      split at accepted
      next permissive =>
        simp only [Token.mode?, permissive]
        exact permissive ▸ commandKeyword_mode accepted
      next strict =>
        simp only [Token.mode?, strict]
        exact strict ▸ stringValue_mode accepted
    | doesWord => exact commandKeyword_mode accepted
    | usingWord => exact usingKeyword_mode accepted
    | fromWord =>
      simp only [accept, fromKeyword] at accepted
      split at accepted
      next => cases accepted; exact ⟨rfl, rfl⟩
      next => cases accepted

/-- From any builder on, the last keyword decides the mode. -/
theorem feedAll_mode {placed : List (Token × Position)} (fed : builder.feedAll placed = .ok next) :
    next.mode =
      ((placed.map Prod.fst).filterMap (Token.mode? builder.dialect)).getLast?.getD builder.mode := by
  induction placed generalizing builder with
  | nil =>
    cases fed
    rfl
  | cons first rest ih =>
    unfold feedAll at fed
    split at fed
    next => cases fed
    next middle taken =>
      obtain ⟨mode, dialect⟩ := accept_mode (Grammar.feed_eq_ok_iff.mp taken)
      rw [ih fed, mode, dialect, List.map_cons, List.filterMap_cons]
      cases first.fst.mode? builder.dialect with
      | none => rfl
      | some entered => rw [List.getLast?_cons]; rfl

end Builder

end RouteDoc
