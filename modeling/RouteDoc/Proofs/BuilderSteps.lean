import RouteDoc.Proofs.OpenParts

/-! What each token does to a builder that was reached by other tokens, and from that what any number of
tokens do. A token either opens a part, after the parts that it ends are settled, or fills the next place
of the innermost open part. -/

namespace RouteDoc.Grammar
variable {dialect : Dialect} {label : String}

/-! What a token adds stays inside of the innermost part: whatever is around it is kept. -/

section
variable {tokens : List Token} {token : Token} {before mode : Mode} {builder next : Builder}

theorem Reached.onRoute {change : RouteFrame → Except Refusal RouteFrame}
    (reached : Reached dialect label tokens builder) (standing : builder.mode = before)
    (ran : builder.onRoute change = .ok next)
    (step : ∀ opened frame changed, OpenGroup dialect opened before frame →
      change frame = .ok changed → OpenGroup dialect (opened ++ [token]) mode changed) :
    Reached dialect label (tokens ++ [token]) (next.enter mode) := by
  cases reached with
  | top => cases ran
  | importing => cases ran
  | routing settled group =>
    obtain ⟨changed, changes, rfl⟩ := ok_of_map ran
    subst standing
    have more := Reached.routing settled (step _ _ changed group changes)
    rwa [← List.append_assoc] at more

theorem Reached.onInvoke {change : InvokeFrame → Except Refusal InvokeFrame}
    (reached : Reached dialect label tokens builder) (standing : builder.mode = before)
    (ran : builder.onInvoke change = .ok next)
    (step : ∀ opened frame changed, OpenInvocation dialect opened before frame →
      change frame = .ok changed → OpenInvocation dialect (opened ++ [token]) mode changed) :
    Reached dialect label (tokens ++ [token]) (next.enter mode) := by
  refine reached.onRoute standing ran fun opened frame changed group changes => ?_
  cases group with
  | filling => cases changes
  | acting settled command =>
    cases command with
    | includes => cases changes
    | invoke invocation =>
      obtain ⟨last, ran, rfl⟩ := ok_of_map changes
      have more := OpenGroup.acting settled (.invoke (step _ _ last invocation ran))
      rwa [← List.append_assoc] at more

theorem Reached.onParam {change : ParamFrame → Except Refusal ParamFrame}
    (reached : Reached dialect label tokens builder) (standing : builder.mode = before)
    (ran : builder.onParam change = .ok next)
    (step : ∀ opened frame changed, OpenBinding dialect opened before frame →
      change frame = .ok changed → OpenBinding dialect (opened ++ [token]) mode changed) :
    Reached dialect label (tokens ++ [token]) (next.enter mode) := by
  refine reached.onInvoke standing ran fun opened frame changed invocation changes => ?_
  cases invocation with
  | filling => cases changes
  | binding settled binding =>
    obtain ⟨last, ran, rfl⟩ := ok_of_map changes
    have more := OpenInvocation.binding settled (step _ _ last binding ran)
    rwa [← List.append_assoc] at more

theorem Reached.onInclude {change : IncludeFrame → Except Refusal IncludeFrame}
    (reached : Reached dialect label tokens builder) (standing : builder.mode = before)
    (ran : builder.onInclude change = .ok next)
    (step : ∀ opened frame changed, OpenCommand dialect opened before (.includes frame) →
      change frame = .ok changed → OpenCommand dialect (opened ++ [token]) mode (.includes changed)) :
    Reached dialect label (tokens ++ [token]) (next.enter mode) := by
  refine reached.onRoute standing ran fun opened frame changed group changes => ?_
  cases group with
  | filling => cases changes
  | @acting _ _ _ _ command settled inner =>
    cases command with
    | invoke => cases changes
    | includes opened =>
      obtain ⟨last, ran, rfl⟩ := ok_of_map changes
      have more := OpenGroup.acting settled (step _ opened last inner ran)
      rwa [← List.append_assoc] at more

private theorem enter_same {change : RouteFrame → Except Refusal RouteFrame}
    (standing : builder.mode = mode) (ran : builder.onRoute change = .ok next) :
    next.enter mode = next := by
  subst standing
  unfold Builder.onRoute at ran
  split at ran
  · cases ran
  · obtain ⟨changed, _, rfl⟩ := ok_of_map ran
    rfl

theorem OpenCommand.inRoute {frame : CommandFrame} (opened : OpenCommand dialect tokens mode frame) :
    mode.inRoute = true ∧ mode ≠ .route := by
  cases opened with
  | includes => exact ⟨rfl, nofun⟩
  | invoke opened =>
    cases opened with
    | filling => exact ⟨rfl, nofun⟩
    | binding _ opened => cases opened <;> exact ⟨rfl, nofun⟩

theorem OpenGroup.inRoute {frame : RouteFrame} (opened : OpenGroup dialect tokens mode frame) :
    mode.inRoute = true := by
  cases opened with
  | filling => rfl
  | acting _ opened => exact opened.inRoute.1

/-! Each keyword opens a part, after the parts that it ends are settled. -/

theorem Reached.importKeyword (reached : Reached dialect label tokens builder)
    (ran : builder.importKeyword = .ok next) :
    Reached dialect label (tokens ++ [.keyword .importWord]) next := by
  cases reached with
  | top =>
    cases ran
    exact (.importing .none .none : Reached dialect label ([] ++ [_]) ⟨_, _, ([].flatten ++ []).reverse, _, _, _⟩)
  | importing imported many =>
    cases ran
    have more : Reached dialect label _ _ := .importing (imported.snoc (.mk many)) .none
    simpa [Builder.enter] using more
  | routing _ group =>
    have inside := group.inRoute
    unfold Builder.importKeyword at ran
    split at ran
    next standing => cases standing; cases inside
    next standing => cases standing; cases inside
    next => cases ran

theorem ok_of_closing {α : Type} {result : Except Unfinished α} {value : α}
    (ran : Builder.closing result = .ok value) : result = .ok value := by
  cases result with
  | error _ => cases ran
  | ok _ => cases ran; rfl

theorem Reached.routeKeyword (reached : Reached dialect label tokens builder)
    (ran : builder.routeKeyword = .ok next) :
    Reached dialect label (tokens ++ [.keyword .routeWord]) next := by
  obtain ⟨closed, closing, rfl⟩ := ok_of_map ran
  have settled := reached.settle (ok_of_closing closing)
  exact (.routing settled (.filling .bare) : Reached dialect label _ { closed with route := some {}, mode := .route })

theorem Reached.commandKeyword {command : CommandFrame} (reached : Reached dialect label tokens builder)
    (fresh : OpenCommand dialect [token] mode command)
    (ran : builder.commandKeyword command mode = .ok next) :
    Reached dialect label (tokens ++ [token]) next := by
  unfold Builder.commandKeyword at ran
  split at ran
  · obtain ⟨changed, opening, rfl⟩ := ok_of_map ran
    refine reached.onRoute rfl opening fun opened frame last group changes => ?_
    obtain ⟨settled, closing, rfl⟩ := ok_of_map (ok_of_closing changes)
    exact .acting (group.settle closing) fresh
  · cases ran

theorem Reached.usingKeyword {place : Position} (reached : Reached dialect label tokens builder)
    (ran : builder.usingKeyword place = .ok next) :
    Reached dialect label (tokens ++ [.keyword .usingWord]) next := by
  have opens (ran : (builder.onInvoke fun frame => Builder.closing (frame.openParam place)).map
      (Builder.enter .param) = .ok next) : Reached dialect label (tokens ++ [.keyword .usingWord]) next := by
    obtain ⟨changed, opening, rfl⟩ := ok_of_map ran
    refine reached.onInvoke rfl opening fun opened frame last invocation changes => ?_
    obtain ⟨settled, closing, rfl⟩ := ok_of_map (ok_of_closing changes)
    exact .binding (invocation.settle closing) (.filling .bare)
  unfold Builder.usingKeyword at ran
  split at ran
  · exact opens ran
  · exact opens ran
  · exact opens ran
  · cases ran

theorem Reached.fromKeyword (reached : Reached dialect label tokens builder)
    (ran : builder.fromKeyword = .ok next) :
    Reached dialect label (tokens ++ [.keyword .fromWord]) next := by
  unfold Builder.fromKeyword at ran
  split at ran
  next standing =>
    cases ran
    cases reached with
    | top => cases standing
    | importing => cases standing
    | routing settled group =>
      cases standing
      -- The mode leaves one state: a binding is open, and no source of it was read yet.
      obtain _ | ⟨grouped, command⟩ := group
      obtain _ | invocation := command
      obtain _ | ⟨invoked, binding⟩ := invocation
      cases binding with
      | @filling place tokens name default slots =>
        have opened : OpenBinding dialect _ _ ⟨place, name, default, []⟩ := .sourcing slots .none
        have more := Reached.routing settled (.acting grouped (.invoke (.binding invoked opened)))
        simpa [Builder.enter] using more
  next => cases ran

/-! A value fills the next place of the part that the mode belongs to. -/

theorem Reached.dialect_eq (reached : Reached dialect label tokens builder) : builder.dialect = dialect := by
  cases reached with
  | top => rfl
  | importing => rfl
  | routing settled _ => cases settled; rfl

theorem Reached.literalValue {text : String} (reached : Reached dialect label tokens builder)
    (ran : builder.literalValue text = .ok next) :
    Reached dialect label (tokens ++ [.literal text]) next := by
  unfold Builder.literalValue at ran
  split at ran
  next => cases ran
  next standing =>
    rw [← enter_same standing ran]
    refine reached.onInvoke standing ran fun opened frame changed invocation changes => ?_
    cases invocation with
    | filling slots =>
      split at changes
      next => cases changes
      next missing =>
        cases changes
        subst missing
        exact .filling (slots.fillFirst (.literal text))
    | binding _ opened => cases opened
  next standing =>
    rw [← enter_same standing ran]
    refine reached.onParam standing ran fun opened frame changed binding changes => ?_
    cases binding with
    | filling slots =>
      split at changes
      next => cases changes
      next => cases changes
      next named missing =>
        cases changes
        subst named missing
        exact .filling (slots.fillSecond (.literal text))
  all_goals cases ran

/-! A string has a meaning of its own in every mode but the first. -/

section
variable {text : String}

theorem Reached.stringInImports (reached : Reached dialect label tokens builder)
    (read : Text dialect [token] (.string text)) (ran : builder.stringValue text = .ok next)
    (standing : builder.mode = .imports) : Reached dialect label (tokens ++ [token]) next := by
  simp only [Builder.stringValue, standing] at ran
  cases ran
  cases reached with
  | top => cases standing
  | importing imported many =>
    have more : Reached dialect label _ _ := .importing imported (many.snoc read)
    simpa using more
  | routing _ group =>
    have inside := group.inRoute
    cases standing
    cases inside

theorem Reached.stringInRoute (reached : Reached dialect label tokens builder)
    (read : Text dialect [token] (.string text)) (ran : builder.stringValue text = .ok next)
    (standing : builder.mode = .route) : Reached dialect label (tokens ++ [token]) next := by
  simp only [Builder.stringValue, standing] at ran
  rw [← enter_same standing ran]
  refine reached.onRoute standing ran fun opened frame changed group changes => ?_
  cases group with
  | filling slots =>
    split at changes
    next missing => cases changes; subst missing; exact .filling (slots.fillFirst read)
    next named missing => cases changes; subst named missing; exact .filling (slots.fillSecond read)
    next => cases changes
  | acting _ command => exact absurd rfl command.inRoute.2

theorem Reached.stringInInclude (reached : Reached dialect label tokens builder)
    (read : Text dialect [token] (.string text)) (ran : builder.stringValue text = .ok next)
    (standing : builder.mode = .includes) : Reached dialect label (tokens ++ [token]) next := by
  simp only [Builder.stringValue, standing] at ran
  rw [← enter_same standing ran]
  refine reached.onInclude standing ran fun opened frame changed command changes => ?_
  cases command with
  | includes word named =>
    cases named with
    | absent => cases changes; exact .includes word (.present read)
    | present => cases changes

theorem Reached.stringInHandler (reached : Reached dialect label tokens builder)
    (read : Text dialect [token] (.string text)) (ran : builder.stringValue text = .ok next)
    (standing : builder.mode = .handler) : Reached dialect label (tokens ++ [token]) next := by
  have spoken := reached.dialect_eq
  simp only [Builder.stringValue, standing] at ran
  rw [← enter_same standing ran]
  refine reached.onInvoke standing ran fun opened frame changed invocation changes => ?_
  cases invocation with
  | filling slots =>
    split at changes
    next missing permissive =>
      cases changes
      subst missing
      rw [spoken] at permissive
      cases read with
      | string => exact .filling (slots.fillFirst (.string text permissive))
      | word strict => cases permissive.symm.trans strict
    next => cases changes
    next named missing => cases changes; subst named missing; exact .filling (slots.fillSecond read)
    next => cases changes
  | binding _ opened => cases opened

theorem Reached.stringInParam (reached : Reached dialect label tokens builder)
    (read : Text dialect [token] (.string text)) (ran : builder.stringValue text = .ok next)
    (standing : builder.mode = .param) : Reached dialect label (tokens ++ [token]) next := by
  simp only [Builder.stringValue, standing] at ran
  rw [← enter_same standing ran]
  refine reached.onParam standing ran fun opened frame changed binding changes => ?_
  cases binding with
  | filling slots =>
    split at changes
    next missing => cases changes; subst missing; exact .filling (slots.fillFirst read)
    next named missing =>
      cases changes
      subst named missing
      exact .filling (slots.fillSecond (.text read))
    next => cases changes

theorem Reached.stringInSources (reached : Reached dialect label tokens builder)
    (read : Text dialect [token] (.string text)) (ran : builder.stringValue text = .ok next)
    (standing : builder.mode = .sources) : Reached dialect label (tokens ++ [token]) next := by
  simp only [Builder.stringValue, standing] at ran
  rw [← enter_same standing ran]
  refine reached.onParam standing ran fun opened frame changed binding changes => ?_
  cases binding with
  | sourcing slots many =>
    cases changes
    have more := many.snoc read
    simpa using OpenBinding.sourcing slots (by simpa using more)

theorem Reached.stringValue (reached : Reached dialect label tokens builder)
    (read : Text dialect [token] (.string text)) (ran : builder.stringValue text = .ok next) :
    Reached dialect label (tokens ++ [token]) next := by
  cases standing : builder.mode with
  | top =>
    simp only [Builder.stringValue, standing] at ran
    cases ran
  | imports => exact reached.stringInImports read ran standing
  | route => exact reached.stringInRoute read ran standing
  | includes => exact reached.stringInInclude read ran standing
  | handler => exact reached.stringInHandler read ran standing
  | param => exact reached.stringInParam read ran standing
  | sources => exact reached.stringInSources read ran standing

end

/-! One token, any number of tokens, and the end. -/

theorem Reached.accept {place : Position} (reached : Reached dialect label tokens builder)
    (ran : builder.accept token place = .ok next) :
    Reached dialect label (tokens ++ [token]) next := by
  cases token with
  | literal text => exact reached.literalValue ran
  | string text => exact reached.stringValue (.string text) ran
  | keyword word =>
    cases word with
    | importWord => exact reached.importKeyword ran
    | routeWord => exact reached.routeKeyword ran
    | includesWord => exact reached.commandKeyword (.includes .long .absent) ran
    | includeWord =>
      have spoken := reached.dialect_eq
      simp only [Builder.accept, spoken] at ran
      cases dialect with
      | permissive => exact reached.commandKeyword (.includes (.short rfl) .absent) ran
      | strict => exact reached.stringValue (.word rfl) ran
    | doesWord => exact reached.commandKeyword (.invoke (.filling .bare)) ran
    | usingWord => exact reached.usingKeyword ran
    | fromWord => exact reached.fromKeyword ran

end

/-- A token that is fed is a token that is accepted. -/
theorem feed_eq_ok_iff {builder next : Builder} {token : Token} {place : Position} :
    builder.feed token place = .ok next ↔ builder.accept token place = .ok next := by
  unfold Builder.feed
  split
  next _ accepted => rw [accepted, Except.ok.injEq, Except.ok.injEq]
  next _ refused => rw [refused]; exact ⟨nofun, nofun⟩
  next _ refused => rw [refused]; exact ⟨nofun, nofun⟩

theorem Reached.feedAll {builder last : Builder} {tokens : List Token} {placed : List (Token × Position)}
    (reached : Reached dialect label tokens builder) (ran : builder.feedAll placed = .ok last) :
    Reached dialect label (tokens ++ placed.map Prod.fst) last := by
  induction placed generalizing builder tokens with
  | nil =>
    cases ran
    simpa using reached
  | cons first rest ih =>
    unfold Builder.feedAll at ran
    split at ran
    next => cases ran
    next _ fed =>
      have more := ih (reached.accept (feed_eq_ok_iff.mp fed)) ran
      simpa using more

theorem Reached.finish {builder : Builder} {tokens : List Token} {document : Document}
    (reached : Reached dialect label tokens builder) (finished : builder.finish = .ok document) :
    Derives dialect label tokens document := by
  unfold Builder.finish at finished
  split at finished
  next => cases finished
  next closed closing =>
    cases finished
    cases reached.settle closing with
    | mk imported routed => simpa [Builder.document] using Derives.mk imported routed

end RouteDoc.Grammar
