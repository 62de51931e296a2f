import RouteDoc.Proofs.ErrorBlame
import RouteDoc.Proofs.TokenHistory

/-! Where grammar errors point, told from the tokens that were accepted before. The open parts of a builder are those
that the tokens tell, with the places of their words. So what keeps one of them from being closed is the innermost
part that the tokens leave unfinished. -/

namespace RouteDoc
open History

/-! The open parts. -/

/-- Whether an open command is the one that the tokens tell, and its open binding too. -/
inductive CommandFrame.Recalls (dialect : Dialect) (fed : List (Token × Position)) : Mode → CommandFrame → Prop
  | including {frame : IncludeFrame} {after : List (Token × Position)} :
      Told dialect commandModes fed .includes frame.openedAt frame.name after → Valued dialect after →
      Recalls dialect fed .includes (.includes frame)
  | handling {frame : InvokeFrame} {after : List (Token × Position)} :
      Told dialect commandModes fed .handler frame.openedAt frame.handler after → Valued dialect after →
      frame.param = none → Recalls dialect fed .handler (.invoke frame)
  | binding {frame : InvokeFrame} {param : ParamFrame} {mode : Mode} {after rest : List (Token × Position)} :
      Told dialect commandModes fed .handler frame.openedAt frame.handler after → frame.param = some param →
      Told dialect [.param] after .param param.openedAt param.name rest →
      mode = .param ∧ Valued dialect rest ∨ mode = .sources ∧ rest ≠ [] → Recalls dialect fed mode (.invoke frame)

/-- Whether the open parts of a builder are those that the tokens tell. -/
inductive Builder.Recalls (dialect : Dialect) (fed : List (Token × Position)) (builder : Builder) : Prop
  | outside : builder.route = none → builder.mode.inRoute = false → Recalls dialect fed builder
  | naming {frame : RouteFrame} : builder.route = some frame → builder.mode = .route → frame.command = none →
      Recalls dialect fed builder
  | acting {frame : RouteFrame} {mode : Mode} {command : CommandFrame} : builder.route = some frame →
      builder.mode = mode → frame.command = some command → command.Recalls dialect fed mode →
      Recalls dialect fed builder

/-- A refusal either breaks a rule of its own, or is blamed on the part that is unfinished and should end. -/
def Refusal.Attributed (dialect : Dialect) (fed : List (Token × Position)) (token : Token) : Refusal → Prop
  | .token fault => fault ≠ .missingHandler ∧ fault ≠ .missingName
  | .unfinished part => token.Ends dialect ∧ unfinished? dialect fed = some part

section
variable {dialect : Dialect} {fed after rest : List (Token × Position)} {mode : Mode}

/-! Closing. -/

theorem IncludeFrame.close_told {frame : IncludeFrame}
    (told : Told dialect commandModes fed .includes frame.openedAt frame.name after) :
    FailsBy (unfinished? dialect fed = some ·) frame.close := by
  obtain ⟨openedAt, name⟩ := frame
  cases name with
  | none =>
    refine .error ?_
    rw [unfinished?, told.since]
    exact told.lacking ..
  | some => exact .ok _

/-- A command whose bindings are complete. -/
theorem CommandFrame.Recalls.settled {frame closed : InvokeFrame}
    (recalls : CommandFrame.Recalls dialect fed mode (.invoke frame)) (settled : frame.closeParam = .ok closed)
    (missing : frame.handler = none) :
    unfinished? dialect fed = some ⟨.missingHandler, .doesWord, frame.openedAt⟩ := by
  cases recalls with
  | handling told valued _ =>
    rw [missing] at told
    simp only [unfinished?, told.since, valued.since?_eq_none, Option.bind_none, Option.none_or, told.lacking]
  | @binding _ param _ _ _ told open_ binding =>
    obtain ⟨openedAt, name, default, sources⟩ := param
    rw [missing] at told
    cases name with
    | none =>
      rw [InvokeFrame.closeParam, open_] at settled
      cases settled
    | some name =>
      simp only [unfinished?, told.since, binding.since, Option.bind_some, binding.complete, Option.none_or,
        told.lacking]

theorem CommandFrame.Recalls.closeParam {frame : InvokeFrame}
    (recalls : CommandFrame.Recalls dialect fed mode (.invoke frame)) :
    FailsBy (unfinished? dialect fed = some ·) frame.closeParam := by
  unfold InvokeFrame.closeParam
  cases recalls with
  | handling told valued settled =>
    rw [settled]
    exact .ok _
  | @binding _ param _ _ _ told open_ binding =>
    rw [open_]
    obtain ⟨openedAt, name, default, sources⟩ := param
    cases name with
    | none =>
      refine FailsBy.map (.error ?_) _
      simp only [unfinished?, told.since, binding.since, Option.bind_some, binding.lacking, Option.some_or]
    | some => exact .ok _

theorem InvokeFrame.closeParam_kept {frame closed : InvokeFrame} (settled : frame.closeParam = .ok closed) :
    closed.openedAt = frame.openedAt ∧ closed.handler = frame.handler := by
  unfold closeParam at settled
  split at settled
  · obtain rfl := Except.ok.inj settled
    exact ⟨rfl, rfl⟩
  · obtain ⟨param, _, rfl⟩ := Grammar.ok_of_map settled
    exact ⟨rfl, rfl⟩

theorem CommandFrame.Recalls.closeInvoke {frame : InvokeFrame}
    (recalls : CommandFrame.Recalls dialect fed mode (.invoke frame)) :
    FailsBy (unfinished? dialect fed = some ·) frame.close := by
  unfold InvokeFrame.close
  split
  next part failed => exact .error (recalls.closeParam part failed)
  next closed settled =>
    split
    next missing =>
      rw [(InvokeFrame.closeParam_kept settled).2] at missing
      exact .error (recalls.settled settled missing)
    next => exact .ok _

theorem CommandFrame.Recalls.openParam {command : InvokeFrame} {token : Token} (place : Position)
    (recalls : CommandFrame.Recalls dialect fed mode (.invoke command))
    (enters : token.mode? dialect = some .param) :
    Yields (unfinished? dialect fed = some ·)
      (fun changed => CommandFrame.Recalls dialect (fed ++ [(token, place)]) .param (.invoke changed))
      (command.openParam place) := by
  unfold InvokeFrame.openParam
  cases settled : command.closeParam with
  | error part => exact recalls.closeParam part settled
  | ok closed =>
    obtain ⟨openedAt, handler⟩ := InvokeFrame.closeParam_kept settled
    have told : ∃ after, Told dialect commandModes fed .handler closed.openedAt closed.handler after := by
      rw [openedAt, handler]
      cases recalls with
      | handling told => exact ⟨_, told⟩
      | binding told => exact ⟨_, told⟩
    obtain ⟨after, told⟩ := told
    exact .binding (told.keyword enters (by decide)) rfl (.opened enters (by decide)) (.inl ⟨rfl, .nil⟩)

theorem CommandFrame.Recalls.close {command : CommandFrame} (recalls : command.Recalls dialect fed mode) :
    FailsBy (unfinished? dialect fed = some ·) command.close := by
  cases command with
  | includes frame =>
    cases recalls with
    | including told => exact (IncludeFrame.close_told told).map _
  | invoke frame => exact recalls.closeInvoke.map _

theorem CommandFrame.Recalls.inRoute {command : CommandFrame} (recalls : command.Recalls dialect fed mode) :
    mode.inRoute = true := by
  cases recalls with
  | including => rfl
  | handling => rfl
  | binding _ _ _ inside => rcases inside with ⟨rfl, _⟩ | ⟨rfl, _⟩ <;> rfl

namespace Builder
variable {builder : Builder} {token : Token} {place : Position}

theorem Recalls.closeCommand (recalls : builder.Recalls dialect fed) :
    ∀ frame ∈ builder.route, FailsBy (unfinished? dialect fed = some ·) frame.closeCommand := by
  intro frame found
  unfold RouteFrame.closeCommand
  cases recalls with
  | outside closed => cases closed.symm.trans found
  | naming known _ none =>
    obtain rfl := Option.some.inj (known.symm.trans found)
    rw [none]
    exact .ok _
  | acting known _ acting recalls =>
    obtain rfl := Option.some.inj (known.symm.trans found)
    rw [acting]
    exact recalls.close.map _

theorem Recalls.closeRoute (recalls : builder.Recalls dialect fed) :
    FailsBy (unfinished? dialect fed = some ·) builder.closeRoute := by
  unfold Builder.closeRoute
  split
  next => exact .ok _
  next frame found => exact ((recalls.closeCommand frame found).map _).map _

/-! Keywords. -/

/-- A token that breaks a rule of its own. -/
theorem refused_attributed {α : Type} {holds : α → Prop} {fault : Fault}
    (own : fault ≠ .missingHandler ∧ fault ≠ .missingName) :
    Yields (Refusal.Attributed dialect fed token) holds (.error (.token fault)) := own

theorem closing_attributed {α : Type} {result : Except Unfinished α} {holds : α → Prop} (ends : token.Ends dialect)
    (yields : Yields (unfinished? dialect fed = some ·) holds result) :
    Yields (Refusal.Attributed dialect fed token) holds (closing result) := by
  cases result with
  | error => exact ⟨ends, yields⟩
  | ok => exact yields

theorem Recalls.closed (recalls : builder.Recalls dialect fed) (outside : builder.mode.inRoute = false) :
    builder.route = none := by
  cases recalls with
  | outside closed => exact closed
  | naming _ standing =>
    rw [standing] at outside
    cases outside
  | acting _ standing _ recalls => cases recalls.inRoute.symm.trans (standing ▸ outside)

theorem Recalls.importKeyword (recalls : builder.Recalls dialect fed) (item : Token × Position) :
    Yields (Refusal.Attributed dialect fed token) (Builder.Recalls dialect (fed ++ [item])) builder.importKeyword := by
  unfold Builder.importKeyword
  split
  next standing => exact .outside (recalls.closed (by rw [standing]; rfl)) rfl
  next standing => exact .outside (recalls.closed (by rw [standing]; rfl)) rfl
  next => exact refused_attributed (by decide)

theorem Recalls.routeKeyword (recalls : builder.Recalls dialect fed) (item : Token × Position)
    (ends : token.Ends dialect) :
    Yields (Refusal.Attributed dialect fed token) (Builder.Recalls dialect (fed ++ [item])) builder.routeKeyword := by
  have closes : Yields (unfinished? dialect fed = some ·) (fun _ => True) builder.closeRoute := by
    cases closed : builder.closeRoute with
    | error part => exact recalls.closeRoute part closed
    | ok => trivial
  exact (closing_attributed ends closes).map fun _ _ => .naming rfl rfl rfl

theorem Recalls.commandKeyword (recalls : builder.Recalls dialect fed) {item : Token × Position}
    (ends : token.Ends dialect) {command : CommandFrame} {mode : Mode}
    (fresh : command.Recalls dialect (fed ++ [item]) mode) :
    Yields (Refusal.Attributed dialect fed token) (Builder.Recalls dialect (fed ++ [item]))
      (builder.commandKeyword command mode) := by
  unfold Builder.commandKeyword Builder.onRoute
  split
  next =>
    split
    next => exact refused_attributed (by decide)
    next frame found =>
      have opens : Yields (unfinished? dialect fed = some ·) (·.command = some command) (frame.openCommand command) :=
        (recalls.closeCommand frame found).yields fun _ => rfl
      refine ((closing_attributed ends opens).map fun changed acting => ?_).map fun _ kept => kept
      exact .acting rfl rfl acting fresh
  next => exact refused_attributed (by decide)

/-! An open invocation. -/

theorem onInvoke_of {frame : RouteFrame} {command : InvokeFrame} (found : builder.route = some frame)
    (acting : frame.command = some (.invoke command)) (change : InvokeFrame → Except Refusal InvokeFrame) :
    builder.onInvoke change = (change command).map fun changed =>
      { builder with route := some { frame with command := some (.invoke changed) } } := by
  unfold onInvoke onRoute
  simp only [found, acting]
  cases change command <;> rfl

theorem Recalls.usingKeyword (recalls : builder.Recalls dialect fed) (place : Position)
    (enters : token.mode? dialect = some .param) :
    Yields (Refusal.Attributed dialect fed token) (Builder.Recalls dialect (fed ++ [(token, place)]))
      (builder.usingKeyword place) := by
  have opening : Yields (Refusal.Attributed dialect fed token) (Builder.Recalls dialect (fed ++ [(token, place)]))
      ((builder.onInvoke fun frame => closing (frame.openParam place)).map (Builder.enter .param)) := by
    cases recalls with
    | outside closed =>
      rw [onInvoke, onRoute, closed]
      exact refused_attributed (by decide)
    | naming found _ none =>
      rw [onInvoke, onRoute, found]
      dsimp only
      rw [none]
      exact refused_attributed (by decide)
    | @acting frame mode command found _ acting recalls =>
      cases command with
      | includes =>
        rw [onInvoke, onRoute, found]
        dsimp only
        rw [acting]
        exact refused_attributed (by decide)
      | invoke command =>
        rw [onInvoke_of found acting]
        refine Yields.map (Yields.map (closing_attributed ⟨.param, enters, .inr rfl⟩
          (recalls.openParam place enters)) fun changed recalls => ?_) fun _ kept => kept
        exact .acting rfl rfl rfl recalls
  unfold Builder.usingKeyword
  split
  iterate 3 next => exact opening
  next => exact refused_attributed (by decide)

theorem Recalls.fromKeyword (recalls : builder.Recalls dialect fed) (place : Position)
    (enters : token.mode? dialect = some .sources) :
    Yields (Refusal.Attributed dialect fed token) (Builder.Recalls dialect (fed ++ [(token, place)]))
      builder.fromKeyword := by
  unfold Builder.fromKeyword
  split
  next standing =>
    cases recalls with
    | outside _ outside =>
      rw [standing] at outside
      cases outside
    | naming _ naming => cases standing.symm.trans naming
    | acting found same acting recalls =>
      obtain rfl := same.symm.trans standing
      cases recalls with
      | binding told open_ binding =>
        exact .acting found rfl acting (.binding (told.keyword enters (by decide)) open_
          (binding.keyword enters (by decide)) (.inr ⟨rfl, by simp⟩))
  next => exact refused_attributed (by decide)

/-! Values. -/

theorem onInclude_of {frame : RouteFrame} {command : IncludeFrame} (found : builder.route = some frame)
    (acting : frame.command = some (.includes command)) (change : IncludeFrame → Except Refusal IncludeFrame) :
    builder.onInclude change = (change command).map fun changed =>
      { builder with route := some { frame with command := some (.includes changed) } } := by
  unfold onInclude onRoute
  simp only [found, acting]
  cases change command <;> rfl

theorem onParam_of {frame : RouteFrame} {command : InvokeFrame} {param : ParamFrame}
    (found : builder.route = some frame) (acting : frame.command = some (.invoke command))
    (open_ : command.param = some param) (change : ParamFrame → Except Refusal ParamFrame) :
    builder.onParam change = (change param).map fun changed =>
      let invoked := { command with param := some changed }
      { builder with route := some { frame with command := some (.invoke invoked) } } := by
  unfold onParam
  rw [onInvoke_of found acting]
  simp only [open_]
  cases change param <;> rfl

theorem Recalls.stringValue (recalls : builder.Recalls dialect fed) (place : Position) (text : String)
    (value : token.mode? dialect = none) :
    Yields (Refusal.Attributed dialect fed token) (Builder.Recalls dialect (fed ++ [(token, place)]))
      (builder.stringValue text) := by
  unfold Builder.stringValue
  cases recalls with
  | outside closed outside =>
    cases standing : builder.mode with
    | top => exact refused_attributed (by decide)
    | imports => exact .outside closed rfl
    | _ =>
      rw [standing] at outside
      cases outside
  | naming found standing none =>
    simp only [standing, onRoute, found]
    split
    next => exact .naming rfl rfl none
    next => exact .naming rfl rfl none
    next => exact refused_attributed (by decide)
  | acting found standing acting recalls =>
    cases recalls with
    | including told valued =>
      simp only [standing, onInclude_of found acting]
      split
      next =>
        have given := Option.some_ne_none (Value.string text)
        exact .acting rfl rfl rfl (.including (told.filled value valued given) (valued.snoc value))
      next => exact refused_attributed (by decide)
    | handling told valued settled =>
      simp only [standing, onInvoke_of found acting]
      split
      next =>
        have given := Option.some_ne_none (Value.literal text)
        exact .acting rfl rfl rfl (.handling (told.filled value valued given) (valued.snoc value) settled)
      next => exact refused_attributed (by decide)
      next handled _ =>
        have given := Option.ne_none_iff_exists'.mpr ⟨_, handled⟩
        exact .acting rfl rfl rfl (.handling (told.filled value valued given) (valued.snoc value) settled)
      next => exact refused_attributed (by decide)
    | binding told open_ binding inside =>
      have later := ne_nil_of_since? binding.since
      rcases inside with ⟨rfl, valued⟩ | ⟨rfl, sourced⟩
      · simp only [standing, onParam_of found acting open_]
        split
        next =>
          have given := Option.some_ne_none (Value.string text)
          exact .acting rfl rfl rfl (.binding (told.passed value later) rfl (binding.filled value valued given)
            (.inl ⟨rfl, valued.snoc value⟩))
        next named _ =>
          have given := Option.ne_none_iff_exists'.mpr ⟨_, named⟩
          exact .acting rfl rfl rfl (.binding (told.passed value later) rfl (binding.filled value valued given)
            (.inl ⟨rfl, valued.snoc value⟩))
        next => exact refused_attributed (by decide)
      · simp only [standing, onParam_of found acting open_]
        exact .acting rfl rfl rfl (.binding (told.passed value later) rfl (binding.passed value sourced)
          (.inr ⟨rfl, by simp⟩))

theorem Recalls.literalValue (recalls : builder.Recalls dialect fed) (place : Position) (text : String)
    (value : token.mode? dialect = none) :
    Yields (Refusal.Attributed dialect fed token) (Builder.Recalls dialect (fed ++ [(token, place)]))
      (builder.literalValue text) := by
  unfold Builder.literalValue
  cases recalls with
  | outside closed outside =>
    cases standing : builder.mode with
    | top => exact refused_attributed (by decide)
    | imports => exact refused_attributed (by decide)
    | _ =>
      rw [standing] at outside
      cases outside
  | naming found standing none =>
    rw [standing]
    exact refused_attributed (by decide)
  | acting found standing acting recalls =>
    cases recalls with
    | including =>
      rw [standing]
      exact refused_attributed (by decide)
    | handling told valued settled =>
      simp only [standing, onInvoke_of found acting]
      split
      next => exact refused_attributed (by decide)
      next =>
        have given := Option.some_ne_none (Value.literal text)
        exact .acting rfl rfl rfl (.handling (told.filled value valued given) (valued.snoc value) settled)
    | binding told open_ binding inside =>
      have later := ne_nil_of_since? binding.since
      rcases inside with ⟨rfl, valued⟩ | ⟨rfl, sourced⟩
      · simp only [standing, onParam_of found acting open_]
        split
        next => exact refused_attributed (by decide)
        next => exact refused_attributed (by decide)
        next named _ =>
          have given := Option.ne_none_iff_exists'.mpr ⟨_, named⟩
          exact .acting rfl rfl rfl (.binding (told.passed value later) rfl (binding.filled value valued given)
            (.inl ⟨rfl, valued.snoc value⟩))
      · rw [standing]
        exact refused_attributed (by decide)

/-! One token, any number of tokens, and the end. -/

theorem Recalls.accept (recalls : builder.Recalls dialect fed) (spoken : builder.dialect = dialect) (token : Token)
    (place : Position) :
    Yields (Refusal.Attributed dialect fed token) (Builder.Recalls dialect (fed ++ [(token, place)]))
      (builder.accept token place) := by
  cases token with
  | literal text => exact recalls.literalValue place text rfl
  | string text => exact recalls.stringValue place text rfl
  | keyword word =>
    have opens {mode : Mode} (enters : Token.mode? dialect (.keyword word) = some mode) (member : mode ∈ commandModes) :
        Token.Ends dialect (.keyword word) :=
      ⟨mode, enters, .inl member⟩
    cases word with
    | importWord => exact recalls.importKeyword _
    | routeWord => exact recalls.routeKeyword _ (opens rfl (by decide))
    | includesWord =>
      exact recalls.commandKeyword (opens rfl (by decide)) (.including (.opened rfl (by decide)) .nil)
    | includeWord =>
      unfold Builder.accept
      dsimp only
      split
      next permissive =>
        have enters : Token.mode? dialect (.keyword .includeWord) = some .includes := by
          simp [← spoken, Token.mode?, permissive]
        exact recalls.commandKeyword (opens enters (by decide)) (.including (.opened enters (by decide)) .nil)
      next strict =>
        have value : Token.mode? dialect (.keyword .includeWord) = none := by
          simp [← spoken, Token.mode?, strict]
        exact recalls.stringValue place _ value
    | doesWord =>
      exact recalls.commandKeyword (opens rfl (by decide)) (.handling (.opened rfl (by decide)) .nil rfl)
    | usingWord => exact recalls.usingKeyword place rfl
    | fromWord => exact recalls.fromKeyword place rfl

theorem Recalls.feedAll {placed : List (Token × Position)} {next : Builder} (recalls : builder.Recalls dialect fed)
    (spoken : builder.dialect = dialect) (ran : builder.feedAll placed = .ok next) :
    next.Recalls dialect (fed ++ placed) ∧ next.dialect = dialect := by
  induction placed generalizing builder fed with
  | nil =>
    obtain rfl := Except.ok.inj ran
    rw [List.append_nil]
    exact ⟨recalls, spoken⟩
  | cons first rest ih =>
    obtain ⟨token, place⟩ := first
    unfold Builder.feedAll at ran
    split at ran
    next => cases ran
    next middle taken =>
      have accepted := Grammar.feed_eq_ok_iff.mp taken
      have more := ih ((recalls.accept spoken token place).of_ok accepted) ((accept_mode accepted).2.trans spoken) ran
      rwa [List.append_assoc] at more

/-- Every grammar error tells the mode before it. If a value is missing, it is blamed on the word of the innermost part
that the tokens before it left unfinished; that happens at the end or at a keyword that ends parts. Any other error is
blamed on the token that was refused. -/
theorem feedAll_attributes {label : String} {placed : List (Token × Position)}
    (fed : (Builder.new label dialect).feedAll placed = .ok builder) :
    (∀ token place error, builder.feed token place = .error error →
      error.mode = builder.mode ∧
      (error.fault = .missingHandler ∨ error.fault = .missingName → token.Ends dialect ∧
        ∃ part, unfinished? dialect placed = some part ∧ error.fault = part.fault ∧ error.token = part.keyword.text ∧
          error.position = part.openedAt) ∧
      (¬ (error.fault = .missingHandler ∨ error.fault = .missingName) →
        error.token = token.display ∧ error.position = place)) ∧
    ∀ error, builder.finish = .error error → error.mode = builder.mode ∧
      (error.fault = .missingHandler ∨ error.fault = .missingName) ∧
      ∃ part, unfinished? dialect placed = some part ∧ error.fault = part.fault ∧ error.token = part.keyword.text ∧
        error.position = part.openedAt := by
  have fresh : (Builder.new label dialect).Recalls dialect [] := .outside rfl rfl
  obtain ⟨recalls, spoken⟩ := fresh.feedAll rfl fed
  rw [List.nil_append] at recalls
  constructor
  · intro token place error failed
    have attributed := (recalls.accept spoken token place).fails
    unfold Builder.feed at failed
    split at failed
    next => cases failed
    next fault refused =>
      obtain rfl := Except.error.inj failed
      obtain ⟨handled, named⟩ := attributed _ refused
      exact ⟨rfl, fun lacks => absurd lacks (not_or_intro handled named), fun _ => ⟨rfl, rfl⟩⟩
    next part refused =>
      obtain rfl := Except.error.inj failed
      obtain ⟨ends, left⟩ := attributed _ refused
      exact ⟨rfl, fun _ => ⟨ends, part, left, rfl, rfl, rfl⟩, fun other => absurd (lacking_of_unfinished? left) other⟩
  · intro error failed
    unfold Builder.finish at failed
    split at failed
    next part lost =>
      obtain rfl := Except.error.inj failed
      have left := recalls.closeRoute part lost
      exact ⟨rfl, lacking_of_unfinished? left, part, left, rfl, rfl, rfl⟩
    next => cases failed

/-- The second binding has sources but no name, and the command around it has no handler. Both a keyword and the end
are blamed on the binding. -/
theorem feedAll_attributes_nameless :
    let tokens : List Token := [.keyword .routeWord, .string "r", .keyword .doesWord, .keyword .usingWord, .string "p",
      .keyword .fromWord, .string "s", .keyword .usingWord, .keyword .fromWord, .string "t"]
    let placed := tokens.zipIdx.map fun (token, column) => (token, (⟨0, column⟩ : Position))
    ∃ builder, (Builder.new "m" .strict).feedAll placed = .ok builder ∧
      unfinished? .strict placed = some ⟨.missingName, .usingWord, ⟨0, 7⟩⟩ ∧
      (∃ error, builder.feed (.keyword .routeWord) ⟨1, 0⟩ = .error error ∧ error.fault = .missingName ∧
        error.mode = .sources ∧ error.token = "USING" ∧ error.position = ⟨0, 7⟩) ∧
      ∃ error, builder.finish = .error error ∧ error.fault = .missingName ∧ error.position = ⟨0, 7⟩ := by
  intro tokens placed
  let first : Param := ⟨.string "p", none, [.string "s"]⟩
  let second : ParamFrame := ⟨⟨0, 7⟩, none, none, [.string "t"]⟩
  let invoke : InvokeFrame := ⟨⟨0, 2⟩, none, none, [first], some second⟩
  let builder : Builder := ⟨.strict, "m", [], [], some ⟨some (.string "r"), none, [], some (.invoke invoke)⟩, .sources⟩
  have fed : (Builder.new "m" .strict).feedAll placed = .ok builder := by rfl
  have left : unfinished? .strict placed = some ⟨.missingName, .usingWord, ⟨0, 7⟩⟩ := by rfl
  obtain ⟨feeds, finishes⟩ := feedAll_attributes fed
  refine ⟨builder, fed, left, ?_, ?_⟩
  · obtain ⟨mode, missing, _⟩ := feeds (.keyword .routeWord) ⟨1, 0⟩ _ rfl
    obtain ⟨_, part, found, fault, token, position⟩ := missing (.inr rfl)
    obtain rfl := Option.some.inj (left.symm.trans found)
    exact ⟨_, rfl, fault, mode, token, position⟩
  · obtain ⟨_, _, part, found, fault, _, position⟩ := finishes _ rfl
    obtain rfl := Option.some.inj (left.symm.trans found)
    exact ⟨_, rfl, fault, position⟩

end Builder
end

end RouteDoc
