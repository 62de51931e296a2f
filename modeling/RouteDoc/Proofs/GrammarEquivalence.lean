import RouteDoc.Proofs.BuilderSteps

/-! Feeding the tokens of a derivation. Every part of a derivation is taken from any builder that
could close its open parts, and leads to a builder that could close the new part as well. Together
with the other direction this makes the builder decide the grammar. -/

namespace RouteDoc.Grammar

/-- The builder takes the tokens, wherever they stand, and ends in a builder of the given kind. -/
def Runs (builder : Builder) (tokens : List Token) (holds : Builder → Prop) : Prop :=
  ∀ placed : List (Token × Position), placed.map Prod.fst = tokens →
    ∃ next, builder.feedAll placed = .ok next ∧ holds next

theorem feedAll_append {builder next : Builder} {placed rest : List (Token × Position)}
    (fed : builder.feedAll placed = .ok next) : builder.feedAll (placed ++ rest) = next.feedAll rest := by
  induction placed generalizing builder with
  | nil => cases fed; rfl
  | cons first placed ih =>
    simp only [List.cons_append, Builder.feedAll] at fed ⊢
    split at fed
    next => cases fed
    next => exact ih fed

namespace Runs
variable {builder next : Builder} {token : Token} {tokens rest : List Token} {holds middle : Builder → Prop}

theorem nil (now : holds builder) : Runs builder [] holds := by
  intro placed same
  rw [List.map_eq_nil_iff.mp same]
  exact ⟨builder, rfl, now⟩

theorem cons (taken : ∀ place, ∃ next, builder.accept token place = .ok next ∧ Runs next rest holds) :
    Runs builder (token :: rest) holds := by
  intro placed same
  obtain ⟨⟨_, place⟩, more, rfl, rfl, others⟩ := List.map_eq_cons_iff.mp same
  obtain ⟨next, accepted, runs⟩ := taken place
  obtain ⟨last, fed, now⟩ := runs more others
  refine ⟨last, ?_, now⟩
  simp only [Builder.feedAll, feed_eq_ok_iff.mpr accepted]
  exact fed

theorem append (first : Runs builder tokens middle) (more : ∀ next, middle next → Runs next rest holds) :
    Runs builder (tokens ++ rest) holds := by
  intro placed same
  obtain ⟨before, after, rfl, left, right⟩ := List.map_eq_append_iff.mp same
  obtain ⟨next, fed, between⟩ := first before left
  rw [feedAll_append fed]
  exact more next between after right

theorem follow (first : Runs builder tokens (· = next)) (more : Runs next rest holds) :
    Runs builder (tokens ++ rest) holds :=
  first.append fun _ same => same ▸ more

theorem weaken (runs : Runs builder tokens middle) (implies : ∀ next, middle next → holds next) :
    Runs builder tokens holds := by
  intro placed same
  obtain ⟨next, fed, now⟩ := runs placed same
  exact ⟨next, fed, implies next now⟩

/-- Repeated parts, with what they leave behind listed latest first as in the frames. -/
theorem many {part : List Token → α → Prop} {values done : List α} (holds : List α → Builder → Prop)
    (step : ∀ done builder tokens value, holds done builder → part tokens value →
      Runs builder tokens (holds (value :: done)))
    (many : Many part tokens values) (start : holds done builder) :
    Runs builder tokens (holds (values.reverse ++ done)) := by
  induction many generalizing builder done with
  | none => exact .nil start
  | more first _ ih =>
    simp only [List.reverse_cons, List.append_assoc, List.singleton_append]
    exact (step done builder _ _ start first).append fun next here => ih here

variable {dialect : Dialect}

theorem text {value : Value} (read : Text dialect tokens value) (spoken : builder.dialect = dialect)
    (taken : ∀ text, value = .string text → ∃ next, builder.stringValue text = .ok next ∧ holds next) :
    Runs builder tokens holds := by
  cases read with
  | string text =>
    obtain ⟨next, accepted, now⟩ := taken text rfl
    exact .cons fun place => ⟨next, accepted, .nil now⟩
  | word strict =>
    obtain ⟨next, accepted, now⟩ := taken _ rfl
    refine .cons fun place => ⟨next, ?_, .nil now⟩
    simpa only [Builder.accept, spoken, strict] using accepted

end Runs

/-! The kinds of builders between parts: closing what is open leads to the given values. -/

/-- The builder with the given command open. -/
def atCommand (base : Builder) (frame : RouteFrame) (mode : Mode) (command : CommandFrame) : Builder :=
  { base with route := some { frame with command := some command }, mode }

/-- The builder with the given binding open. -/
def atBinding (base : Builder) (frame : RouteFrame) (invoke : InvokeFrame) (mode : Mode) (param : ParamFrame) :
    Builder :=
  atCommand base frame mode (.invoke { invoke with param := some param })

/-- An invocation is open, and becomes the given one when its last binding is closed. -/
def Invoking (base : Builder) (frame : RouteFrame) (closed : InvokeFrame) (builder : Builder) : Prop :=
  ∃ mode command, (mode = .handler ∨ mode = .param ∨ mode = .sources) ∧
    command.closeParam = .ok closed ∧ builder = atCommand base frame mode (.invoke command)

/-- A route is open, and becomes the given one when its last command is closed. -/
def Routing (base : Builder) (closed : RouteFrame) (builder : Builder) : Prop :=
  ∃ mode frame, mode.inRoute = true ∧ frame.closeCommand = .ok closed ∧
    builder = { base with route := some frame, mode }

/-- The builder has the given imports and routes when its last route is closed. -/
def Standing (dialect : Dialect) (label : String) (imports : List Value) (routes : List Route)
    (builder : Builder) : Prop :=
  ∃ mode, builder.closeRoute = .ok ⟨dialect, label, imports, routes, none, mode⟩

section
variable {base : Builder} {frame : RouteFrame}

theorem atCommand_onInvoke (mode : Mode) (invoke : InvokeFrame) (change : InvokeFrame → Except Refusal InvokeFrame) :
    (atCommand base frame mode (.invoke invoke)).onInvoke change =
      (change invoke).map fun changed => atCommand base frame mode (.invoke changed) := by
  simp only [Builder.onInvoke, Builder.onRoute, atCommand]
  cases change invoke <;> rfl

theorem atCommand_onInclude (mode : Mode) (opened : IncludeFrame) (change : IncludeFrame → Except Refusal IncludeFrame) :
    (atCommand base frame mode (.includes opened)).onInclude change =
      (change opened).map fun changed => atCommand base frame mode (.includes changed) := by
  simp only [Builder.onInclude, Builder.onRoute, atCommand]
  cases change opened <;> rfl

theorem atBinding_onParam (invoke : InvokeFrame) (mode : Mode) (param : ParamFrame)
    (change : ParamFrame → Except Refusal ParamFrame) :
    (atBinding base frame invoke mode param).onParam change =
      (change param).map (atBinding base frame invoke mode) := by
  simp only [Builder.onParam, atBinding, atCommand_onInvoke]
  cases change param <;> rfl

variable {dialect : Dialect} {builder : Builder} {tokens : List Token}

theorem Runs.default {invoke : InvokeFrame} {place : Position} {name : Value} {default : Option Value}
    (spoken : base.dialect = dialect) (part : Perhaps (Default dialect) tokens default) :
    Runs (atBinding base frame invoke .param ⟨place, some name, none, []⟩) tokens
      (· = atBinding base frame invoke .param ⟨place, some name, default, []⟩) := by
  cases part with
  | absent => exact .nil rfl
  | present part =>
    cases part with
    | literal text =>
      refine .cons fun _ => ⟨_, ?_, .nil rfl⟩
      rw [Builder.accept]
      exact atBinding_onParam invoke .param ⟨place, some name, none, []⟩ _
    | text read =>
      refine .text read spoken fun text same => ⟨_, ?_, rfl⟩
      rw [same]
      exact atBinding_onParam invoke .param ⟨place, some name, none, []⟩ _

theorem Runs.sources {invoke : InvokeFrame} {place : Position} {name : Value} {default : Option Value}
    {sources : List Value} (spoken : base.dialect = dialect) (part : Sources dialect tokens sources) :
    Runs (atBinding base frame invoke .param ⟨place, some name, default, []⟩) tokens fun next =>
      ∃ mode, (mode = .param ∨ mode = .sources) ∧
        next = atBinding base frame invoke mode ⟨place, some name, default, sources.reverse⟩ := by
  cases part with
  | absent => exact .nil ⟨.param, .inl rfl, rfl⟩
  | present many =>
    refine .cons fun _ => ⟨atBinding base frame invoke .sources ⟨place, some name, default, []⟩, rfl, ?_⟩
    let pushed (done : List Value) (next : Builder) : Prop :=
      next = atBinding base frame invoke .sources ⟨place, some name, default, done⟩
    have pushes done builder tokens value (here : pushed done builder) (read : Text dialect tokens value) :
        Runs builder tokens (pushed (value :: done)) := by
      subst here
      refine .text read spoken fun text same => ⟨_, ?_, rfl⟩
      rw [same]
      exact atBinding_onParam invoke .sources ⟨place, some name, default, done⟩ _
    refine (Runs.many pushed pushes many rfl).weaken fun next here => ⟨.sources, .inr rfl, ?_⟩
    simpa [pushed] using here

theorem Runs.binding {place : Position} {handler name : Option Value} {params : List Param} {param : Param}
    (spoken : base.dialect = dialect)
    (standing : Invoking base frame ⟨place, handler, name, params, none⟩ builder)
    (part : Binding dialect tokens param) :
    Runs builder tokens (Invoking base frame ⟨place, handler, name, param :: params, none⟩) := by
  obtain ⟨mode, command, inside, closes, rfl⟩ := standing
  cases part with
  | @mk named defaulted sourced title default sources first second third =>
    let closed : InvokeFrame := ⟨place, handler, name, params, none⟩
    refine .cons fun opened => ⟨atBinding base frame closed .param ⟨opened, none, none, []⟩, ?_, ?_⟩
    · have keyword : (atCommand base frame mode (.invoke command)).usingKeyword opened =
          ((atCommand base frame mode (.invoke command)).onInvoke fun frame =>
            Builder.closing (frame.openParam opened)).map (Builder.enter .param) := by
        obtain rfl | rfl | rfl := inside <;> rfl
      rw [Builder.accept, keyword, atCommand_onInvoke, InvokeFrame.openParam, closes]
      rfl
    · have titled : Runs (atBinding base frame closed .param ⟨opened, none, none, []⟩) named
          (· = atBinding base frame closed .param ⟨opened, some title, none, []⟩) := by
        refine .text first spoken fun text same => ⟨_, ?_, rfl⟩
        rw [same]
        exact atBinding_onParam closed .param ⟨opened, none, none, []⟩ _
      refine ((titled.follow (.default spoken second)).follow (.sources spoken third)).weaken ?_
      rintro last ⟨mode, inside, rfl⟩
      refine ⟨mode, { closed with param := some _ }, .inr inside, ?_, rfl⟩
      simp [InvokeFrame.closeParam, ParamFrame.close, Except.map, closed]

theorem accept_includeWord (place : Position) (permissive : builder.dialect = .permissive) :
    builder.accept (.keyword .includeWord) place =
      builder.commandKeyword (.includes { openedAt := place }) .includes := by
  simp only [Builder.accept, permissive]

theorem commandKeyword_eq {closed : RouteFrame} {mode : Mode} (next : Mode) (command : CommandFrame)
    (inside : mode.inRoute = true) (closes : frame.closeCommand = .ok closed) :
    Builder.commandKeyword { base with route := some frame, mode } command next =
      .ok (atCommand base closed next command) := by
  simp only [Builder.commandKeyword, inside, Builder.onRoute, RouteFrame.openCommand, closes]
  rfl

theorem Runs.handler {place : Position} {handler : Value} (spoken : base.dialect = dialect)
    (part : Handler dialect tokens handler) :
    Runs (atCommand base frame .handler (.invoke ⟨place, none, none, [], none⟩)) tokens
      (· = atCommand base frame .handler (.invoke ⟨place, some handler, none, [], none⟩)) := by
  cases part with
  | literal text =>
    refine .cons fun _ => ⟨_, ?_, .nil rfl⟩
    rw [Builder.accept]
    exact atCommand_onInvoke .handler ⟨place, none, none, [], none⟩ _
  | string text permissive =>
    refine .cons fun _ => ⟨_, ?_, .nil rfl⟩
    have allowed : (atCommand base frame .handler (.invoke ⟨place, none, none, [], none⟩)).dialect = .permissive :=
      spoken.trans permissive
    simp only [Builder.accept, Builder.stringValue, allowed]
    exact atCommand_onInvoke .handler ⟨place, none, none, [], none⟩ _

theorem Runs.displayName {place : Position} {handler : Value} {name : Option Value}
    (spoken : base.dialect = dialect) (part : Perhaps (Text dialect) tokens name) :
    Runs (atCommand base frame .handler (.invoke ⟨place, some handler, none, [], none⟩)) tokens
      (· = atCommand base frame .handler (.invoke ⟨place, some handler, name, [], none⟩)) := by
  cases part with
  | absent => exact .nil rfl
  | present read =>
    refine .text read spoken fun text same => ⟨_, ?_, rfl⟩
    rw [same]
    exact atCommand_onInvoke .handler ⟨place, some handler, none, [], none⟩ _

theorem Runs.action {name description : Option Value} {commands : List Command} {command : Command}
    (spoken : base.dialect = dialect) (standing : Routing base ⟨name, description, commands, none⟩ builder)
    (part : Action dialect tokens command) :
    Runs builder tokens (Routing base ⟨name, description, command :: commands, none⟩) := by
  obtain ⟨mode, frame, inside, closes, rfl⟩ := standing
  let closed : RouteFrame := ⟨name, description, commands, none⟩
  cases part with
  | @includes word named title spelled read =>
    let opened (place : Position) (name : Option Value) : Builder :=
      atCommand base closed .includes (.includes ⟨place, name⟩)
    refine .cons fun place => ⟨opened place none, ?_, ?_⟩
    · cases spelled with
      | long => exact commandKeyword_eq .includes _ inside closes
      | short permissive =>
        have known : Builder.dialect { base with route := some frame, mode } = .permissive :=
          spoken.trans permissive
        rw [accept_includeWord place known]
        exact commandKeyword_eq .includes _ inside closes
    · refine .text read spoken fun text same => ⟨opened place (some title), ?_, ?_⟩
      · rw [same]
        exact atCommand_onInclude .includes ⟨place, none⟩ _
      · exact ⟨.includes, _, rfl, rfl, rfl⟩
  | @invoke handled named bound handler title params first second third =>
    refine .cons fun place => ⟨_, commandKeyword_eq .handler _ inside closes, ?_⟩
    let bound (params : List Param) : Builder → Prop :=
      Invoking base closed ⟨place, some handler, title, params, none⟩
    have start : bound [] (atCommand base closed .handler (.invoke ⟨place, some handler, title, [], none⟩)) :=
      ⟨.handler, _, .inl rfl, rfl, rfl⟩
    have bindings := Runs.many bound (fun _ _ _ _ standing part => .binding spoken standing part) third start
    refine (((Runs.handler spoken first).follow (.displayName spoken second)).follow bindings).weaken ?_
    rintro last ⟨mode, command, inside, closes, rfl⟩
    refine ⟨mode, _, by obtain rfl | rfl | rfl := inside <;> rfl, ?_, rfl⟩
    simp [RouteFrame.closeCommand, CommandFrame.close, InvokeFrame.close, closes, Except.map, closed]

theorem Runs.head {label : String} {imports : List Value} {routes : List Route} {name description : Option Value}
    (part : Head dialect tokens name description) :
    Runs ⟨dialect, label, imports, routes, some {}, .route⟩ tokens
      (· = ⟨dialect, label, imports, routes, some ⟨name, description, [], none⟩, .route⟩) := by
  have named {tokens : List Token} {title : Value} (read : Text dialect tokens title) :
      Runs ⟨dialect, label, imports, routes, some {}, .route⟩ tokens
        (· = ⟨dialect, label, imports, routes, some ⟨some title, none, [], none⟩, .route⟩) :=
    .text read rfl fun text same => ⟨_, by rw [same]; rfl, rfl⟩
  cases part with
  | bare => exact .nil rfl
  | named read => exact named read
  | described first second =>
    exact (named first).follow (.text second rfl fun text same => ⟨_, by rw [same]; rfl, rfl⟩)

theorem Runs.group {label : String} {imports : List Value} {routes : List Route} {route : Route}
    (standing : Standing dialect label imports routes builder) (part : Group dialect tokens route) :
    Runs builder tokens (Standing dialect label imports (route :: routes)) := by
  obtain ⟨mode, closes⟩ := standing
  cases part with
  | @mk headed acted name description commands head many =>
    refine .cons fun place => ⟨⟨dialect, label, imports, routes, some {}, .route⟩, ?_, ?_⟩
    · simp only [Builder.accept, Builder.routeKeyword, closes]
      rfl
    · let base : Builder := ⟨dialect, label, imports, routes, none, .route⟩
      have actions := Runs.many (fun commands => Routing base ⟨name, description, commands, none⟩)
        (fun _ _ _ _ standing part => Runs.action rfl standing part) many
        ⟨.route, ⟨name, description, [], none⟩, rfl, rfl, rfl⟩
      refine (Runs.head head).follow (actions.weaken ?_)
      rintro last ⟨mode, frame, _, closes, rfl⟩
      exact ⟨mode, by simp [Builder.closeRoute, RouteFrame.close, closes, Except.map, base]⟩

theorem Runs.imports {label : String} {imports : List (List Value)} (many : Many (Import dialect) tokens imports) :
    Runs (.new label dialect) tokens (Standing dialect label imports.flatten.reverse []) := by
  let importing (done : List (List Value)) (next : Builder) : Prop :=
    ∃ mode, (mode = .top ∨ mode = .imports) ∧
      next = ⟨dialect, label, (done.map List.reverse).flatten, [], none, mode⟩
  have more done builder tokens values (standing : importing done builder)
      (part : Import dialect tokens values) : Runs builder tokens (importing (values :: done)) := by
    obtain ⟨mode, outside, rfl⟩ := standing
    cases part with
    | mk many =>
      let pushed (values : List Value) (next : Builder) : Prop :=
        next = ⟨dialect, label, values, [], none, .imports⟩
      refine .cons fun place => ⟨⟨dialect, label, (done.map List.reverse).flatten, [], none, .imports⟩, ?_, ?_⟩
      · obtain rfl | rfl := outside <;> rfl
      · have pushes values builder tokens value (here : pushed values builder) (read : Text dialect tokens value) :
            Runs builder tokens (pushed (value :: values)) := by
          subst here
          exact .text read rfl fun text same => ⟨_, by rw [same]; rfl, rfl⟩
        exact (Runs.many pushed pushes many rfl).weaken fun next here => ⟨.imports, .inr rfl, here⟩
  have start : importing [] (.new label dialect) := ⟨.top, .inl rfl, rfl⟩
  refine (Runs.many importing more many start).weaken ?_
  rintro next ⟨mode, _, rfl⟩
  exact ⟨mode, by simp [Builder.closeRoute, List.reverse_flatten, List.map_reverse]⟩

theorem Runs.document {label : String} {document : Document} (part : Derives dialect label tokens document) :
    Runs (.new label dialect) tokens fun next => next.finish = .ok document := by
  cases part with
  | @mk imported routed imports routes first second =>
    refine ((Runs.imports first).append fun next standing =>
      Runs.many (Standing dialect label imports.flatten.reverse)
        (fun _ _ _ _ standing part => Runs.group standing part) second standing).weaken ?_
    rintro last ⟨mode, closes⟩
    simp [Builder.finish, closes, Builder.document]

end

/-- The builder accepts exactly the sequences that the grammar derives, whatever the places of the
tokens, and hands out the tree of the derivation. -/
theorem finish_eq_ok_iff_derives (dialect : Dialect) (label : String) (placed : List (Token × Position))
    (document : Document) :
    (∃ builder, (Builder.new label dialect).feedAll placed = .ok builder ∧ builder.finish = .ok document) ↔
      Derives dialect label (placed.map Prod.fst) document := by
  constructor
  · rintro ⟨builder, fed, finished⟩
    simpa using (Reached.top.feedAll fed).finish finished
  · intro part
    exact Runs.document part placed rfl

end RouteDoc.Grammar
