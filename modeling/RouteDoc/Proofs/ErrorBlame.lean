import RouteDoc.Parse
import RouteDoc.Proofs.BuilderRefusals

/-! What grammar errors are blamed on. An open part remembers the place of the keyword that opened it and is
blamed there when it cannot be closed; any other refusal is blamed on the token that is refused. Either way the
place is that of a token that was fed. Only the strict dialect refuses a string because it asks for a literal. -/

namespace RouteDoc

/-- Whether a token opens a part that is blamed on a keyword. -/
def Token.Opens (token : Token) (keyword : Keyword) : Prop :=
  token = .keyword keyword ∨ token = .keyword .includeWord ∧ keyword = .includesWord

/-- An error at one of the tokens that were fed, and about it. -/
structure GrammarError.Names (dialect : Dialect) (fed : List (Token × Position)) (error : GrammarError) : Prop where
  named : ∃ token, (token, error.position) ∈ fed ∧
    (error.token = token.display ∨ token = .keyword .includeWord ∧ error.token = Keyword.includesWord.text)
  strict : error.fault = .handlerNotLiteral → dialect = .strict

/-- What a check leaves holds, and every failure is of the given kind. -/
def Yields {ε α : Type} (kind : ε → Prop) (holds : α → Prop) : Except ε α → Prop
  | .error error => kind error
  | .ok value => holds value

section
variable {ε α β : Type} {kind : ε → Prop} {holds : α → Prop} {later : β → Prop} {result : Except ε α}

theorem Yields.fails (yields : Yields kind holds result) : FailsBy kind result := by
  rintro error rfl
  exact yields

theorem Yields.of_ok {value : α} (yields : Yields kind holds result) (ran : result = .ok value) : holds value := by
  subst ran
  exact yields

theorem Yields.map (yields : Yields kind holds result) {change : α → β}
    (kept : ∀ value, holds value → later (change value)) : Yields kind later (result.map change) := by
  cases result with
  | error _ => exact yields
  | ok value => exact kept value yields

theorem FailsBy.yields (fails : FailsBy kind result) {change : α → β} (leaves : ∀ value, later (change value)) :
    Yields kind later (result.map change) := by
  cases result with
  | error _ => exact fails _ rfl
  | ok value => exact leaves value

end

section Parts

/-! Open parts, given which keywords opened something at which places. -/

variable {opened : Keyword → Position → Prop}

structure Unfinished.Blamed (opened : Keyword → Position → Prop) (part : Unfinished) : Prop where
  keyword : opened part.keyword part.openedAt
  lacking : part.Lacking

def ParamFrame.Opened (opened : Keyword → Position → Prop) (frame : ParamFrame) : Prop :=
  opened .usingWord frame.openedAt

def IncludeFrame.Opened (opened : Keyword → Position → Prop) (frame : IncludeFrame) : Prop :=
  opened .includesWord frame.openedAt

structure InvokeFrame.Opened (opened : Keyword → Position → Prop) (frame : InvokeFrame) : Prop where
  command : opened .doesWord frame.openedAt
  param : ∀ param ∈ frame.param, param.Opened opened

def CommandFrame.Opened (opened : Keyword → Position → Prop) : CommandFrame → Prop
  | .includes frame => frame.Opened opened
  | .invoke frame => frame.Opened opened

def RouteFrame.Opened (opened : Keyword → Position → Prop) (frame : RouteFrame) : Prop :=
  ∀ command ∈ frame.command, command.Opened opened

def Builder.Opened (opened : Keyword → Position → Prop) (builder : Builder) : Prop :=
  ∀ frame ∈ builder.route, frame.Opened opened

theorem RouteFrame.opened_of_none {frame : RouteFrame} (settled : frame.command = none) : frame.Opened opened := by
  intro command found
  cases settled.symm.trans found

theorem Builder.opened_of_none {builder : Builder} (settled : builder.route = none) : builder.Opened opened := by
  intro frame found
  cases settled.symm.trans found

/-! Closing. -/

theorem ParamFrame.Opened.close {frame : ParamFrame} (open_ : frame.Opened opened) :
    FailsBy (Unfinished.Blamed opened) frame.close := by
  unfold ParamFrame.close
  split
  next => exact .error ⟨open_, .inr rfl⟩
  next => exact .ok _

theorem InvokeFrame.Opened.closeParam {frame : InvokeFrame} (open_ : frame.Opened opened) :
    Yields (Unfinished.Blamed opened) (InvokeFrame.Opened opened) frame.closeParam := by
  unfold InvokeFrame.closeParam
  split
  next => exact open_
  next param found => exact (open_.param param found).close.yields fun _ => ⟨open_.command, nofun⟩

theorem InvokeFrame.Opened.openParam {frame : InvokeFrame} (open_ : frame.Opened opened) {place : Position}
    (opens : opened .usingWord place) :
    Yields (Unfinished.Blamed opened) (InvokeFrame.Opened opened) (frame.openParam place) := by
  apply open_.closeParam.map
  intro closed open_
  refine ⟨open_.command, ?_⟩
  rintro _ ⟨rfl⟩
  exact opens

theorem InvokeFrame.Opened.close {frame : InvokeFrame} (open_ : frame.Opened opened) :
    FailsBy (Unfinished.Blamed opened) frame.close := by
  unfold InvokeFrame.close
  split
  next part failed => exact .error (open_.closeParam.fails part failed)
  next =>
    split
    next => exact .error ⟨open_.command, .inl rfl⟩
    next => exact .ok _

theorem CommandFrame.Opened.close {frame : CommandFrame} (open_ : frame.Opened opened) :
    FailsBy (Unfinished.Blamed opened) frame.close := by
  cases frame with
  | invoke frame => exact (InvokeFrame.Opened.close open_).map _
  | includes frame =>
    apply FailsBy.map
    unfold IncludeFrame.close
    split
    next => exact .error ⟨open_, .inr rfl⟩
    next => exact .ok _

theorem RouteFrame.Opened.closeCommand {frame : RouteFrame} (open_ : frame.Opened opened) :
    Yields (Unfinished.Blamed opened) (RouteFrame.Opened opened) frame.closeCommand := by
  unfold RouteFrame.closeCommand
  split
  next => exact open_
  next command found => exact (open_ command found).close.yields fun _ => RouteFrame.opened_of_none rfl

theorem RouteFrame.Opened.openCommand {frame : RouteFrame} (open_ : frame.Opened opened) {command : CommandFrame}
    (opens : command.Opened opened) :
    Yields (Unfinished.Blamed opened) (RouteFrame.Opened opened) (frame.openCommand command) := by
  apply open_.closeCommand.map
  rintro closed _ _ ⟨rfl⟩
  exact opens

theorem RouteFrame.Opened.close {frame : RouteFrame} (open_ : frame.Opened opened) :
    FailsBy (Unfinished.Blamed opened) frame.close :=
  open_.closeCommand.fails.map _

/-! Changes of what is open. A refusal that leaves a part unfinished blames it on its keyword; for any other
refusal the token is to blame, and for want of a literal handler it is refused in the strict dialect only. -/

def Refusal.Blamed (opened : Keyword → Position → Prop) (dialect : Dialect) : Refusal → Prop
  | .token fault => fault = .handlerNotLiteral → dialect = .strict
  | .unfinished part => part.Blamed opened

namespace Builder
variable {builder : Builder} {dialect : Dialect}

theorem yields_closing {α : Type} {holds : α → Prop} {result : Except Unfinished α}
    (yields : Yields (Unfinished.Blamed opened) holds result) : Yields (Refusal.Blamed opened dialect) holds (closing result) := by
  cases result with
  | error _ => exact yields
  | ok _ => exact yields

theorem Opened.enter (open_ : builder.Opened opened) (mode : Mode) : (builder.enter mode).Opened opened := open_

theorem Opened.closeRoute (open_ : builder.Opened opened) :
    Yields (Unfinished.Blamed opened) (Builder.Opened opened) builder.closeRoute := by
  unfold Builder.closeRoute
  split
  next => exact open_
  next frame found => exact (open_ frame found).close.yields fun _ => Builder.opened_of_none rfl

theorem Opened.onRoute (open_ : builder.Opened opened) {change : RouteFrame → Except Refusal RouteFrame}
    (step : ∀ frame, frame.Opened opened → Yields (Refusal.Blamed opened dialect) (RouteFrame.Opened opened) (change frame)) :
    Yields (Refusal.Blamed opened dialect) (Builder.Opened opened) (builder.onRoute change) := by
  unfold Builder.onRoute
  split
  next => exact nofun
  next frame found =>
    apply (step frame (open_ frame found)).map
    rintro changed kept _ ⟨rfl⟩
    exact kept

theorem Opened.onInclude (open_ : builder.Opened opened) {change : IncludeFrame → Except Refusal IncludeFrame}
    (step : ∀ frame, frame.Opened opened →
      Yields (Refusal.Blamed opened dialect) (IncludeFrame.Opened opened) (change frame)) :
    Yields (Refusal.Blamed opened dialect) (Builder.Opened opened) (builder.onInclude change) := by
  apply open_.onRoute
  intro frame open_
  split
  next command found =>
    apply (step command (open_ _ found)).map
    rintro changed kept _ ⟨rfl⟩
    exact kept
  next => exact nofun
  next => exact nofun

theorem Opened.onInvoke (open_ : builder.Opened opened) {change : InvokeFrame → Except Refusal InvokeFrame}
    (step : ∀ frame, frame.Opened opened →
      Yields (Refusal.Blamed opened dialect) (InvokeFrame.Opened opened) (change frame)) :
    Yields (Refusal.Blamed opened dialect) (Builder.Opened opened) (builder.onInvoke change) := by
  apply open_.onRoute
  intro frame open_
  split
  next command found =>
    apply (step command (open_ _ found)).map
    rintro changed kept _ ⟨rfl⟩
    exact kept
  next => exact nofun
  next => exact nofun

theorem Opened.onParam (open_ : builder.Opened opened) {change : ParamFrame → Except Refusal ParamFrame}
    (step : ∀ frame, frame.Opened opened →
      Yields (Refusal.Blamed opened dialect) (ParamFrame.Opened opened) (change frame)) :
    Yields (Refusal.Blamed opened dialect) (Builder.Opened opened) (builder.onParam change) := by
  apply open_.onInvoke
  intro frame open_
  split
  next param found =>
    apply (step param (open_.param _ found)).map
    intro changed kept
    refine ⟨open_.command, ?_⟩
    rintro _ ⟨rfl⟩
    exact kept
  next => exact nofun

/-! Keywords and values. -/

theorem Opened.importKeyword (open_ : builder.Opened opened) :
    Yields (Refusal.Blamed opened dialect) (Builder.Opened opened) builder.importKeyword := by
  unfold Builder.importKeyword
  split
  next => exact open_
  next => exact open_
  next => exact nofun

theorem Opened.routeKeyword (open_ : builder.Opened opened) :
    Yields (Refusal.Blamed opened dialect) (Builder.Opened opened) builder.routeKeyword := by
  apply (yields_closing open_.closeRoute).map
  rintro closed _ _ ⟨rfl⟩
  exact RouteFrame.opened_of_none rfl

theorem Opened.commandKeyword (open_ : builder.Opened opened) {command : CommandFrame}
    (opens : command.Opened opened) (mode : Mode) :
    Yields (Refusal.Blamed opened dialect) (Builder.Opened opened) (builder.commandKeyword command mode) := by
  unfold Builder.commandKeyword
  split
  next =>
    refine Yields.map (open_.onRoute ?_) (fun _ open_ => open_.enter mode)
    intro frame open_
    exact yields_closing (open_.openCommand opens)
  next => exact nofun

theorem Opened.usingKeyword (open_ : builder.Opened opened) {place : Position} (opens : opened .usingWord place) :
    Yields (Refusal.Blamed opened dialect) (Builder.Opened opened) (builder.usingKeyword place) := by
  have opening : Yields (Refusal.Blamed opened dialect) (Builder.Opened opened)
      ((builder.onInvoke fun frame => closing (frame.openParam place)).map (Builder.enter .param)) := by
    refine Yields.map (open_.onInvoke ?_) (fun _ open_ => open_.enter .param)
    intro frame open_
    exact yields_closing (open_.openParam opens)
  unfold Builder.usingKeyword
  split
  iterate 3 next => exact opening
  next => exact nofun

theorem Opened.fromKeyword (open_ : builder.Opened opened) :
    Yields (Refusal.Blamed opened dialect) (Builder.Opened opened) builder.fromKeyword := by
  unfold Builder.fromKeyword
  split
  next => exact open_
  next => exact nofun

theorem Opened.literalValue (open_ : builder.Opened opened) (text : String) :
    Yields (Refusal.Blamed opened dialect) (Builder.Opened opened) (builder.literalValue text) := by
  unfold Builder.literalValue
  split
  next => exact nofun
  next =>
    apply open_.onInvoke
    intro frame open_
    split
    next => exact nofun
    next => exact ⟨open_.command, open_.param⟩
  next =>
    apply open_.onParam
    intro frame open_
    split
    next => exact nofun
    next => exact nofun
    next => exact open_
  all_goals exact nofun

theorem Opened.stringValue (open_ : builder.Opened opened) (text : String) :
    Yields (Refusal.Blamed opened builder.dialect) (Builder.Opened opened) (builder.stringValue text) := by
  unfold Builder.stringValue
  split
  next => exact nofun
  next => exact open_
  next =>
    apply open_.onRoute
    intro frame open_
    split
    next => exact open_
    next => exact open_
    next => exact nofun
  next =>
    apply open_.onInclude
    intro frame open_
    split
    next => exact open_
    next => exact nofun
  next =>
    apply open_.onInvoke
    intro frame open_
    split
    next => exact ⟨open_.command, open_.param⟩
    next strict => exact fun _ => strict
    next => exact ⟨open_.command, open_.param⟩
    next => exact nofun
  next =>
    apply open_.onParam
    intro frame open_
    split
    next => exact open_
    next => exact open_
    next => exact nofun
  next =>
    apply open_.onParam
    exact fun frame open_ => open_

/-- A token keeps the places of the parts that stay open, and leaves its own with the part that it opens. -/
theorem Opened.accept (open_ : builder.Opened opened) {token : Token} {place : Position}
    (opens : ∀ keyword, token.Opens keyword → opened keyword place) :
    Yields (Refusal.Blamed opened builder.dialect) (Builder.Opened opened) (builder.accept token place) := by
  cases token with
  | literal text => exact open_.literalValue text
  | string text => exact open_.stringValue text
  | keyword word =>
    cases word with
    | importWord => exact open_.importKeyword
    | routeWord => exact open_.routeKeyword
    | includesWord =>
      have fresh : (CommandFrame.includes { openedAt := place }).Opened opened := opens _ (.inl rfl)
      exact open_.commandKeyword fresh _
    | includeWord =>
      have fresh : (CommandFrame.includes { openedAt := place }).Opened opened := opens _ (.inr ⟨rfl, rfl⟩)
      unfold Builder.accept
      dsimp only
      split
      next => exact open_.commandKeyword fresh _
      next => exact open_.stringValue _
    | doesWord =>
      have fresh : (CommandFrame.invoke { openedAt := place }).Opened opened := ⟨opens _ (.inl rfl), nofun⟩
      exact open_.commandKeyword fresh _
    | usingWord => exact open_.usingKeyword (opens _ (.inl rfl))
    | fromWord => exact open_.fromKeyword

end Builder

end Parts

/-! Any number of tokens, and the end. -/

/-- A token among those that were fed opens a part with the given keyword at the given place. -/
def OpenedAmong (fed : List (Token × Position)) (keyword : Keyword) (place : Position) : Prop :=
  ∃ token : Token, token.Opens keyword ∧ (token, place) ∈ fed

namespace Builder
variable {builder : Builder} {dialect : Dialect} {fed : List (Token × Position)}

theorem names_unfinished {part : Unfinished} (blamed : part.Blamed (OpenedAmong fed)) (mode : Mode) :
    (unfinishedError mode part).Names dialect fed := by
  obtain ⟨token, opens, member⟩ := blamed.keyword
  refine ⟨⟨token, member, ?_⟩, ?_⟩
  · obtain rfl | ⟨rfl, same⟩ := opens
    · exact .inl rfl
    · exact .inr ⟨rfl, congrArg Keyword.text same⟩
  · intro same
    obtain lacks | lacks := blamed.lacking <;> cases lacks.symm.trans same

theorem Opened.feed (open_ : builder.Opened (OpenedAmong fed)) {token : Token} {place : Position}
    (member : (token, place) ∈ fed) :
    Yields (GrammarError.Names builder.dialect fed) (Builder.Opened (OpenedAmong fed)) (builder.feed token place) := by
  have yields := open_.accept fun keyword opens => ⟨token, opens, member⟩
  unfold Builder.feed
  split
  next taken => exact yields.of_ok taken
  next refused => exact ⟨⟨token, member, .inl rfl⟩, yields.fails _ refused⟩
  next refused => exact names_unfinished (yields.fails _ refused) builder.mode

theorem Opened.feedAll (open_ : builder.Opened (OpenedAmong fed)) (spoken : builder.dialect = dialect)
    {placed : List (Token × Position)} (within : ∀ item ∈ placed, item ∈ fed) :
    Yields (GrammarError.Names dialect fed) (Builder.Opened (OpenedAmong fed)) (builder.feedAll placed) := by
  induction placed generalizing builder with
  | nil => exact open_
  | cons first rest ih =>
    obtain ⟨token, place⟩ := first
    obtain ⟨member, within⟩ := List.forall_mem_cons.mp within
    have yields := open_.feed member
    unfold Builder.feedAll
    split
    next failed => exact spoken ▸ yields.fails _ failed
    next taken =>
      have kept := (accept_mode (Grammar.feed_eq_ok_iff.mp taken)).2
      exact ih (yields.of_ok taken) (kept.trans spoken) within

theorem Opened.finish (open_ : builder.Opened (OpenedAmong fed)) :
    FailsBy (GrammarError.Names dialect fed) builder.finish := by
  unfold Builder.finish
  split
  next part failed => exact .error (names_unfinished (open_.closeRoute.fails part failed) builder.mode)
  next => exact .ok _

end Builder

/-- Every grammar error of a source is at one of its tokens, and about it. -/
theorem parse_names {source label : String} {dialect : Dialect} {error : GrammarError}
    (failed : parse source label dialect = .error (.grammar error)) :
    error.Names dialect ((Scan.ofText source).placed (.ofText source)) := by
  have fresh : (Builder.new label dialect).Opened (OpenedAmong ((Scan.ofText source).placed (.ofText source))) :=
    Builder.opened_of_none rfl
  have yields := fresh.feedAll rfl fun _ member => member
  simp only [parse] at failed
  split at failed
  next refused =>
    cases failed
    exact yields.fails _ refused
  next fed =>
    split at failed
    next => cases failed
    next =>
      split at failed
      next refused =>
        cases failed
        exact (yields.of_ok fed).finish _ refused
      next => cases failed

end RouteDoc
