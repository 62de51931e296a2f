import RouteDoc.Proofs.BuilderInvariant

/-! Why a builder refuses a token. A keyword that comes at the wrong place is told so by the mode alone:
the operations never miss the part that they work on, so they never report the same faults themselves. -/

namespace RouteDoc

/-- The faults of a keyword that has no place where it stands. An operation that does not find the part
that it works on reports one of them too. -/
def Fault.isMisplacement : Fault → Bool
  | .outsideRoute | .usingOutsideDoes | .fromOutsideUsing => true
  | _ => false

/-- The fault of a keyword that the mode forbids, whatever is open. -/
def Builder.misplaced (builder : Builder) (token : Token) : Option Fault :=
  match token.mode? builder.dialect with
  | some .includes | some .handler => if builder.mode.inRoute then none else some .outsideRoute
  | some .param =>
    match builder.mode with
    | .handler | .param | .sources => none
    | _ => some .usingOutsideDoes
  | some .sources =>
    match builder.mode with
    | .param => none
    | _ => some .fromOutsideUsing
  | _ => none

/-! What is refused inside of an open part is refused for what the part holds, not for where it stands. -/

/-- The fault that a refusal is reported with. -/
def Refusal.fault : Refusal → Fault
  | .token fault => fault
  | .unfinished part => part.fault

/-- Every failure of a check is of the given kind. -/
def FailsBy {ε α : Type} (kind : ε → Prop) (result : Except ε α) : Prop := ∀ error, result = .error error → kind error

theorem FailsBy.ok {ε α : Type} {kind : ε → Prop} (value : α) : FailsBy kind (.ok value) := nofun

theorem FailsBy.error {ε α : Type} {kind : ε → Prop} {error : ε} (held : kind error) :
    FailsBy kind (.error error : Except ε α) := by
  intro other same
  cases same
  exact held

theorem FailsBy.map {ε α β : Type} {kind : ε → Prop} {result : Except ε α} (fails : FailsBy kind result)
    (change : α → β) : FailsBy kind (result.map change) := by
  cases result with
  | error _ => exact .error (fails _ rfl)
  | ok _ => exact .ok _

/-- A part is left unfinished for nothing but what it lacks. -/
def Unfinished.Lacking (part : Unfinished) : Prop := part.fault = .missingHandler ∨ part.fault = .missingName

def Refusal.InPlace (refusal : Refusal) : Prop := refusal.fault.isMisplacement = false

theorem Unfinished.Lacking.inPlace {part : Unfinished} (lacking : part.Lacking) :
    Refusal.InPlace (.unfinished part) := by
  obtain same | same := lacking <;> simp [Refusal.InPlace, Refusal.fault, same, Fault.isMisplacement]

theorem ParamFrame.close_fails (frame : ParamFrame) : FailsBy Unfinished.Lacking frame.close := by
  unfold close
  split
  next => exact .error (.inr rfl)
  next => exact .ok _

theorem InvokeFrame.closeParam_fails (frame : InvokeFrame) : FailsBy Unfinished.Lacking frame.closeParam := by
  unfold closeParam
  split
  next => exact .ok _
  next opened _ => exact opened.close_fails.map _

theorem InvokeFrame.close_fails (frame : InvokeFrame) : FailsBy Unfinished.Lacking frame.close := by
  unfold close
  split
  next failed => exact .error (frame.closeParam_fails _ failed)
  next =>
    split
    next => exact .error (.inl rfl)
    next => exact .ok _

theorem CommandFrame.close_fails (frame : CommandFrame) : FailsBy Unfinished.Lacking frame.close := by
  cases frame with
  | invoke frame => exact frame.close_fails.map _
  | includes frame =>
    apply FailsBy.map
    unfold IncludeFrame.close
    split
    next => exact .error (.inr rfl)
    next => exact .ok _

theorem RouteFrame.closeCommand_fails (frame : RouteFrame) : FailsBy Unfinished.Lacking frame.closeCommand := by
  unfold closeCommand
  split
  next => exact .ok _
  next opened _ => exact opened.close_fails.map _

namespace Builder
variable {builder : Builder}

theorem closing_fails {kind : Refusal → Prop} (suits : ∀ {part : Unfinished}, part.Lacking → kind (.unfinished part))
    {α : Type} {result : Except Unfinished α} (fails : FailsBy Unfinished.Lacking result) :
    FailsBy kind (closing result) := by
  cases result with
  | error part => exact .error (suits (fails part rfl))
  | ok _ => exact .ok _

theorem closeRoute_fails (builder : Builder) : FailsBy Unfinished.Lacking builder.closeRoute := by
  unfold closeRoute
  split
  next => exact .ok _
  next frame _ => exact (frame.closeCommand_fails.map _).map _

/-! In a coherent builder every operation finds the part that it changes. -/

theorem Coherent.onRoute_fails {change : RouteFrame → Except Refusal RouteFrame} (coherent : builder.Coherent)
    (inside : builder.mode.inRoute = true)
    (fails : ∀ frame ∈ builder.route, FailsBy Refusal.InPlace (change frame)) :
    FailsBy Refusal.InPlace (builder.onRoute change) := by
  obtain ⟨frame, found⟩ := Option.isSome_iff_exists.mp (coherent.routeOpen.mpr inside)
  simp only [onRoute, found]
  exact (fails frame found).map _

theorem Coherent.onInclude_fails {change : IncludeFrame → Except Refusal IncludeFrame} (coherent : builder.Coherent)
    (standing : builder.mode = .includes) (fails : ∀ frame, FailsBy Refusal.InPlace (change frame)) :
    FailsBy Refusal.InPlace (builder.onInclude change) := by
  apply coherent.onRoute_fails
  · rw [standing]
    rfl
  · intro frame found
    obtain ⟨opened, command⟩ := coherent.includeOpen standing frame found
    simp only [command]
    exact (fails opened).map _

theorem Coherent.onInvoke_fails {change : InvokeFrame → Except Refusal InvokeFrame} (coherent : builder.Coherent)
    (inside : builder.mode.inInvoke)
    (fails : ∀ frame, (builder.mode.inParam → frame.param.isSome = true) → FailsBy Refusal.InPlace (change frame)) :
    FailsBy Refusal.InPlace (builder.onInvoke change) := by
  apply coherent.onRoute_fails
  · obtain same | same | same := inside <;> rw [same] <;> rfl
  · intro frame found
    obtain ⟨opened, command, param⟩ := coherent.invokeOpen inside frame found
    simp only [command]
    exact (fails opened param.mpr).map _

theorem Coherent.onParam_fails {change : ParamFrame → Except Refusal ParamFrame} (coherent : builder.Coherent)
    (inside : builder.mode.inParam) (fails : ∀ frame, FailsBy Refusal.InPlace (change frame)) :
    FailsBy Refusal.InPlace (builder.onParam change) := by
  apply coherent.onInvoke_fails (.inr inside)
  intro frame opens
  obtain ⟨param, found⟩ := Option.isSome_iff_exists.mp (opens inside)
  simp only [found]
  exact (fails param).map _

/-! Values, and then every token. -/

theorem Coherent.literalValue_fails (coherent : builder.Coherent) (text : String) :
    FailsBy Refusal.InPlace (builder.literalValue text) := by
  unfold literalValue
  split
  next => exact .error rfl
  next standing =>
    apply coherent.onInvoke_fails (.inl standing)
    intro frame _
    split
    next => exact .error rfl
    next => exact .ok _
  next standing =>
    apply coherent.onParam_fails (.inl standing)
    intro frame
    split
    next => exact .error rfl
    next => exact .error rfl
    next => exact .ok _
  all_goals exact .error rfl

theorem Coherent.stringValue_fails (coherent : builder.Coherent) (text : String) :
    FailsBy Refusal.InPlace (builder.stringValue text) := by
  unfold stringValue
  split
  next => exact .error rfl
  next => exact .ok _
  next standing =>
    apply coherent.onRoute_fails (by rw [standing]; rfl)
    intro frame _
    split
    next => exact .ok _
    next => exact .ok _
    next => exact .error rfl
  next standing =>
    apply coherent.onInclude_fails standing
    intro frame
    split
    next => exact .ok _
    next => exact .error rfl
  next standing =>
    apply coherent.onInvoke_fails (.inl standing)
    intro frame _
    split
    next => exact .ok _
    next => exact .error rfl
    next => exact .ok _
    next => exact .error rfl
  next standing =>
    apply coherent.onParam_fails (.inl standing)
    intro frame
    split
    next => exact .ok _
    next => exact .ok _
    next => exact .error rfl
  next standing =>
    apply coherent.onParam_fails (.inr standing)
    exact fun frame => .ok _

theorem Coherent.commandKeyword_fails (coherent : builder.Coherent) (command : CommandFrame) (mode : Mode)
    (inside : builder.mode.inRoute = true) : FailsBy Refusal.InPlace (builder.commandKeyword command mode) := by
  unfold commandKeyword
  rw [if_pos inside]
  apply FailsBy.map
  apply coherent.onRoute_fails inside
  intro frame _
  exact closing_fails Unfinished.Lacking.inPlace (frame.closeCommand_fails.map _)

theorem commandKeyword_outside (command : CommandFrame) (mode : Mode) (outside : builder.mode.inRoute = false) :
    builder.commandKeyword command mode = .error (.token .outsideRoute) := by
  unfold commandKeyword
  rw [outside]
  rfl

theorem Coherent.usingKeyword_fails (coherent : builder.Coherent) (place : Position) (inside : builder.mode.inInvoke) :
    FailsBy Refusal.InPlace (builder.usingKeyword place) := by
  have opens : FailsBy Refusal.InPlace ((builder.onInvoke fun frame => closing (frame.openParam place)).map
      (enter .param)) := by
    apply FailsBy.map
    apply coherent.onInvoke_fails inside
    intro frame _
    exact closing_fails Unfinished.Lacking.inPlace (frame.closeParam_fails.map _)
  unfold usingKeyword
  split
  next => exact opens
  next => exact opens
  next => exact opens
  next handler param sources =>
    obtain same | same | same := inside
    · exact absurd same handler
    · exact absurd same param
    · exact absurd same sources

/-- A token is refused as the mode demands, or else for a reason that has nothing to do with its place. -/
theorem Coherent.accept_fails (coherent : builder.Coherent) (token : Token) (place : Position) :
    (∃ fault, builder.misplaced token = some fault ∧ builder.accept token place = .error (.token fault)) ∨
      (builder.misplaced token = none ∧ FailsBy Refusal.InPlace (builder.accept token place)) := by
  have command (token : Token) (frame : CommandFrame) (mode : Mode)
      (opens : token.mode? builder.dialect = some .includes ∨ token.mode? builder.dialect = some .handler) :
      (∃ fault, builder.misplaced token = some fault ∧
          builder.commandKeyword frame mode = .error (.token fault)) ∨
        (builder.misplaced token = none ∧ FailsBy Refusal.InPlace (builder.commandKeyword frame mode)) := by
    cases inside : builder.mode.inRoute with
    | false =>
      refine .inl ⟨.outsideRoute, ?_, commandKeyword_outside frame mode inside⟩
      obtain same | same := opens <;> simp [misplaced, same, inside]
    | true =>
      refine .inr ⟨?_, coherent.commandKeyword_fails frame mode inside⟩
      obtain same | same := opens <;> simp [misplaced, same, inside]
  cases token with
  | literal text => exact .inr ⟨rfl, coherent.literalValue_fails text⟩
  | string text => exact .inr ⟨rfl, coherent.stringValue_fails text⟩
  | keyword word =>
    cases word with
    | importWord =>
      refine .inr ⟨rfl, ?_⟩
      simp only [accept, importKeyword]
      split
      next => exact .ok _
      next => exact .ok _
      next => exact .error rfl
    | routeWord =>
      refine .inr ⟨rfl, ?_⟩
      exact (closing_fails Unfinished.Lacking.inPlace builder.closeRoute_fails).map _
    | includesWord => exact command _ _ _ (.inl rfl)
    | includeWord =>
      cases spoken : builder.dialect with
      | permissive =>
        have keyword := command (.keyword .includeWord) (.includes { openedAt := place }) .includes
          (.inl (by rw [spoken]; rfl))
        simpa only [accept, spoken] using keyword
      | strict =>
        refine .inr ⟨by simp [misplaced, Token.mode?, spoken], ?_⟩
        simpa only [accept, spoken] using coherent.stringValue_fails Keyword.includeWord.text
    | doesWord => exact command _ _ _ (.inr rfl)
    | usingWord =>
      by_cases inside : builder.mode.inInvoke
      · refine .inr ⟨?_, coherent.usingKeyword_fails place inside⟩
        obtain same | same | same := inside <;> simp [misplaced, Token.mode?, same]
      · refine .inl ⟨.usingOutsideDoes, ?_⟩
        simp only [misplaced, Token.mode?, accept, usingKeyword]
        cases standing : builder.mode with
        | handler => exact absurd (.inl standing) inside
        | param => exact absurd (.inr (.inl standing)) inside
        | sources => exact absurd (.inr (.inr standing)) inside
        | top | imports | route | includes => exact ⟨rfl, rfl⟩
    | fromWord =>
      simp only [misplaced, Token.mode?, accept, fromKeyword]
      cases standing : builder.mode with
      | param => exact .inr ⟨rfl, .ok _⟩
      | top | imports | route | includes | handler | sources => exact .inl ⟨_, rfl, rfl⟩

theorem feed_eq_error_iff {token : Token} {place : Position} {fault : Fault} :
    (∃ error, builder.feed token place = .error error ∧ error.fault = fault) ↔
      ∃ refusal, builder.accept token place = .error refusal ∧ refusal.fault = fault := by
  unfold feed
  split
  next accepted =>
    simp [accepted]
  next refused => simp [refused, Refusal.fault]
  next part refused => simp [refused, Refusal.fault, unfinishedError]

theorem Coherent.refused_iff_misplaced (coherent : builder.Coherent) (token : Token) (place : Position) {fault : Fault}
    (misplacement : fault.isMisplacement = true) :
    (∃ error, builder.feed token place = .error error ∧ error.fault = fault) ↔
      builder.misplaced token = some fault := by
  rw [feed_eq_error_iff]
  obtain ⟨other, demanded, refused⟩ | ⟨allowed, fails⟩ := coherent.accept_fails token place
  · rw [demanded, refused]
    constructor
    · rintro ⟨_, ⟨rfl⟩, rfl⟩
      rfl
    · rintro ⟨rfl⟩
      exact ⟨_, rfl, rfl⟩
  · rw [allowed]
    constructor
    · rintro ⟨refusal, refused, rfl⟩
      have inPlace := fails refusal refused
      rw [Refusal.InPlace, misplacement] at inPlace
      cases inPlace
    · exact nofun

end Builder

/-- In every builder that tokens lead to, the mode is that of the last keyword, the open parts are those
of the mode and all values are where they belong; and a token is called misplaced if and only if the mode
forbids it, so never because a part that it works on is absent. -/
theorem Builder.feedAll_coherent {dialect : Dialect} {label : String} {placed : List (Token × Position)}
    {builder : Builder} (fed : (Builder.new label dialect).feedAll placed = .ok builder) :
    builder.mode = lastMode dialect (placed.map Prod.fst) ∧ builder.Coherent ∧
      ∀ token place fault, fault.isMisplacement = true →
        ((∃ error, builder.feed token place = .error error ∧ error.fault = fault) ↔
          builder.misplaced token = some fault) := by
  have coherent : builder.Coherent := (Grammar.Reached.top.feedAll fed).coherent
  refine ⟨feedAll_mode fed, coherent, ?_⟩
  intro token place fault misplacement
  exact coherent.refused_iff_misplaced token place misplacement

/-- A builder with a binding open, where the strict dialect took the word `INCLUDE` for a value in several
places, and where a second `FROM` is misplaced. -/
theorem Builder.feedAll_coherent_sourcing :
    let tokens : List Token := [.keyword .importWord, .keyword .includeWord, .keyword .routeWord, .string "r",
      .keyword .includeWord, .keyword .doesWord, .literal "h", .keyword .includeWord, .keyword .usingWord,
      .string "p", .literal "1", .keyword .fromWord, .keyword .includeWord]
    let placed := tokens.map fun token => (token, (⟨0, 0⟩ : Position))
    ∃ builder, (Builder.new "m" .strict).feedAll placed = .ok builder ∧ builder.mode = .sources ∧
      builder.Coherent ∧
      ∃ error, builder.feed (.keyword .fromWord) ⟨1, 0⟩ = .error error ∧ error.fault = .fromOutsideUsing := by
  intro tokens placed
  let param : ParamFrame := ⟨⟨0, 0⟩, some (.string "p"), some (.literal "1"), [.string "INCLUDE"]⟩
  let invoke : InvokeFrame := ⟨⟨0, 0⟩, some (.literal "h"), some (.string "INCLUDE"), [], some param⟩
  let route : RouteFrame := ⟨some (.string "r"), some (.string "INCLUDE"), [], some (.invoke invoke)⟩
  let builder : Builder := ⟨.strict, "m", [.string "INCLUDE"], [], some route, .sources⟩
  have fed : (Builder.new "m" .strict).feedAll placed = .ok builder := by rfl
  obtain ⟨mode, coherent, misplaced⟩ := feedAll_coherent fed
  refine ⟨builder, fed, ?_, coherent, ?_⟩
  · rw [mode]
    rfl
  · exact (misplaced (.keyword .fromWord) ⟨1, 0⟩ .fromOutsideUsing rfl).mpr rfl

end RouteDoc
