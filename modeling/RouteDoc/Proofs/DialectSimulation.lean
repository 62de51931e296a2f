import RouteDoc.Proofs.ErrorBlame

/-! The two dialects next to each other. A strict and a permissive builder that are otherwise the same take
the same tokens and stay the same, until the strict one misses a literal handler where the permissive one is
content with a string. The short spelling of `INCLUDES` adds nothing to either of them: each dialect has
another token for which it stands. -/

namespace RouteDoc

/-- The same builder in another dialect. -/
def Builder.speaking (dialect : Dialect) (builder : Builder) : Builder := { builder with dialect }

/-- The token that a token stands for: `INCLUDE` is `INCLUDES` or a string. -/
def Dialect.meant (dialect : Dialect) : Token → Token
  | .keyword .includeWord =>
    match dialect with
    | .permissive => .keyword .includesWord
    | .strict => .string Keyword.includeWord.text
  | token => token

/-- Every token replaced by the one that it stands for. -/
def Dialect.meantAll (dialect : Dialect) (placed : List (Token × Position)) : List (Token × Position) :=
  placed.map fun (token, place) => (dialect.meant token, place)

/-- What comes of feeding tokens to a new builder and finishing it. -/
def Builder.build (label : String) (dialect : Dialect) (placed : List (Token × Position)) :
    Except GrammarError Document :=
  match (new label dialect).feedAll placed with
  | .error error => .error error
  | .ok builder => builder.finish

namespace Builder
variable {builder : Builder} {dialect : Dialect}

/-! Nothing but a string asks which dialect is spoken, as long as no token is `INCLUDE`. -/

theorem onRoute_speaking (change : RouteFrame → Except Refusal RouteFrame) :
    (builder.speaking dialect).onRoute change = (builder.onRoute change).map (speaking dialect) := by
  cases opened : builder.route with
  | none => simp [onRoute, speaking, opened, Except.map]
  | some frame =>
    simp only [onRoute, speaking, opened]
    cases change frame <;> rfl

theorem closeRoute_speaking :
    (builder.speaking dialect).closeRoute = builder.closeRoute.map (speaking dialect) := by
  cases opened : builder.route with
  | none => simp [closeRoute, speaking, opened, Except.map]
  | some frame =>
    simp only [closeRoute, speaking, opened]
    cases frame.close <;> rfl

theorem commandKeyword_speaking (command : CommandFrame) (mode : Mode) :
    (builder.speaking dialect).commandKeyword command mode =
      (builder.commandKeyword command mode).map (speaking dialect) := by
  have kept : (builder.speaking dialect).mode = builder.mode := rfl
  unfold commandKeyword
  rw [kept, onRoute_speaking]
  split
  next => cases builder.onRoute _ <;> rfl
  next => rfl

theorem usingKeyword_speaking (place : Position) :
    (builder.speaking dialect).usingKeyword place = (builder.usingKeyword place).map (speaking dialect) := by
  have kept : (builder.speaking dialect).mode = builder.mode := rfl
  unfold usingKeyword onInvoke
  rw [kept, onRoute_speaking]
  cases builder.mode with
  | handler | param | sources => cases builder.onRoute _ <;> rfl
  | top | imports | route | includes => rfl

theorem literalValue_speaking (text : String) :
    (builder.speaking dialect).literalValue text = (builder.literalValue text).map (speaking dialect) := by
  have kept : (builder.speaking dialect).mode = builder.mode := rfl
  unfold literalValue
  rw [kept]
  cases builder.mode with
  | handler | param => exact onRoute_speaking _
  | top | imports | route | includes | sources => rfl

theorem routeKeyword_speaking :
    (builder.speaking dialect).routeKeyword = builder.routeKeyword.map (speaking dialect) := by
  unfold routeKeyword
  rw [closeRoute_speaking]
  cases builder.closeRoute <;> rfl

/-- A string is taken alike, unless it is for a handler. -/
theorem stringValue_speaking (strict : builder.dialect = .strict) (text : String) :
    (builder.speaking .permissive).stringValue text = (builder.stringValue text).map (speaking .permissive) ∨
      (builder.mode = .handler ∧ builder.stringValue text = .error (.token .handlerNotLiteral) ∧
        ∃ next, (builder.speaking .permissive).stringValue text = .ok next) := by
  have kept : (builder.speaking .permissive).mode = builder.mode := rfl
  have spoken : (builder.speaking .permissive).dialect = .permissive := rfl
  unfold stringValue
  rw [kept, spoken, strict]
  cases builder.mode with
  | top | imports => exact .inl rfl
  | route | includes | param | sources => exact .inl (onRoute_speaking _)
  | handler =>
    simp only [onInvoke, onRoute, speaking]
    cases opened : builder.route with
    | none => exact .inl rfl
    | some frame =>
      cases standing : frame.command with
      | none => exact .inl (by simp [standing, Except.map])
      | some command =>
        cases command with
        | includes _ => exact .inl (by simp [standing, Except.map])
        | invoke invoke =>
          cases handled : invoke.handler with
          | none => exact .inr (by simp [standing, handled, Except.map])
          | some _ =>
            refine .inl ?_
            cases named : invoke.name <;> simp [standing, handled, named, Except.map, speaking]

/-- The token at which only the strict dialect stops. -/
def StopsAtHandler (builder : Builder) (token : Token) (place : Position) : Prop :=
  builder.mode = .handler ∧ (∃ text, token = .string text) ∧
    builder.accept token place = .error (.token .handlerNotLiteral) ∧
      ∃ next, (builder.speaking .permissive).accept token place = .ok next

theorem accept_speaking (strict : builder.dialect = .strict) {token : Token} (place : Position)
    (other : token ≠ .keyword .includeWord) :
    (builder.speaking .permissive).accept token place = (builder.accept token place).map (speaking .permissive) ∨
      builder.StopsAtHandler token place := by
  cases token with
  | literal text => exact .inl (literalValue_speaking text)
  | string text =>
    obtain same | ⟨standing, refused, taken⟩ := stringValue_speaking strict text
    · exact .inl same
    · exact .inr ⟨standing, ⟨text, rfl⟩, refused, taken⟩
  | keyword word =>
    left
    have kept : (builder.speaking .permissive).mode = builder.mode := rfl
    cases word with
    | importWord =>
      simp only [accept, importKeyword, kept]
      cases builder.mode <;> rfl
    | routeWord => exact routeKeyword_speaking
    | includesWord | doesWord => exact commandKeyword_speaking _ _
    | includeWord => exact absurd rfl other
    | usingWord => exact usingKeyword_speaking place
    | fromWord =>
      simp only [accept, fromKeyword, kept]
      cases builder.mode <;> rfl

/-! The same for any number of tokens. -/

/-- The strict builder stops at a string for which the permissive one has a place. -/
def StopsAmong (builder : Builder) (placed : List (Token × Position)) : Prop :=
  ∃ before text place after, placed = before ++ (.string text, place) :: after ∧
    builder.feedAll placed = .error ⟨.handlerNotLiteral, .handler, (Token.string text).display, place⟩ ∧
      ∃ next, (builder.speaking .permissive).feedAll (before ++ [(.string text, place)]) = .ok next

theorem feed_speaking (strict : builder.dialect = .strict) {token : Token} (place : Position)
    (other : token ≠ .keyword .includeWord) :
    (builder.speaking .permissive).feed token place = (builder.feed token place).map (speaking .permissive) ∨
      builder.StopsAtHandler token place := by
  obtain same | stops := accept_speaking strict place other
  · left
    simp only [feed, same]
    cases builder.accept token place with
    | ok next => rfl
    | error refusal => cases refusal <;> rfl
  · exact .inr stops

theorem feedAll_speaking (strict : builder.dialect = .strict) {placed : List (Token × Position)}
    (others : ∀ item ∈ placed, item.1 ≠ .keyword .includeWord) :
    (builder.speaking .permissive).feedAll placed = (builder.feedAll placed).map (speaking .permissive) ∨
      builder.StopsAmong placed := by
  induction placed generalizing builder with
  | nil => exact .inl rfl
  | cons first rest ih =>
    obtain ⟨token, place⟩ := first
    obtain ⟨other, others⟩ := List.forall_mem_cons.mp others
    obtain same | ⟨standing, ⟨text, rfl⟩, refused, next, taken⟩ := feed_speaking strict place other
    · cases fed : builder.feed token place with
      | error error =>
        left
        rw [feedAll, feedAll, same, fed]
        rfl
      | ok middle =>
        rw [fed] at same
        have spoken : middle.dialect = .strict := (accept_mode (Grammar.feed_eq_ok_iff.mp fed)).2.trans strict
        obtain later | ⟨before, text, place, after, rfl, stopped, next, taken⟩ := ih spoken others
        · left
          rw [feedAll, feedAll, same, fed]
          exact later
        · right
          refine ⟨_ :: before, text, place, after, rfl, ?_, next, ?_⟩
          · rw [feedAll, fed]
            exact stopped
          · rw [List.cons_append, feedAll, same]
            exact taken
    · right
      refine ⟨[], text, place, rest, rfl, ?_, next, ?_⟩
      · rw [feedAll, feed, refused, standing]
      · simp only [List.nil_append, feedAll, Grammar.feed_eq_ok_iff.mpr taken]

theorem finish_speaking : (builder.speaking dialect).finish = builder.finish := by
  unfold finish
  rw [closeRoute_speaking]
  cases builder.closeRoute <;> rfl

/-! A token and the one that it stands for. -/

theorem accept_meant (token : Token) (place : Position) :
    builder.accept (builder.dialect.meant token) place = builder.accept token place := by
  unfold Dialect.meant
  split
  next => cases spoken : builder.dialect <;> simp only [accept, spoken]
  next => rfl

theorem feed_meant (token : Token) (place : Position) :
    builder.feed (builder.dialect.meant token) place = builder.feed token place ∨
      (token = .keyword .includeWord ∧ ∃ error, builder.feed token place = .error error ∧
        builder.feed (builder.dialect.meant token) place =
          .error { error with token := (builder.dialect.meant token).display }) := by
  by_cases short : token = .keyword .includeWord
  · simp only [feed, accept_meant]
    match builder.accept token place with
    | .ok _ => exact .inl rfl
    | .error (.unfinished _) => exact .inl rfl
    | .error (.token _) => exact .inr ⟨short, _, rfl, rfl⟩
  · left
    have same : builder.dialect.meant token = token := by
      unfold Dialect.meant
      split
      next => exact absurd rfl short
      next => rfl
    rw [same]

/-- Both sequences end in a refusal of the same `INCLUDE`, and the reports differ in how they name it. -/
def RefusesShort (builder : Builder) (dialect : Dialect) (placed : List (Token × Position)) : Prop :=
  ∃ before place after middle error, placed = before ++ (.keyword .includeWord, place) :: after ∧
    builder.feedAll before = .ok middle ∧ middle.feed (.keyword .includeWord) place = .error error ∧
      builder.feedAll placed = .error error ∧
        builder.feedAll (dialect.meantAll placed) =
          .error { error with token := (dialect.meant (.keyword .includeWord)).display }

theorem feedAll_meant (spoken : builder.dialect = dialect) (placed : List (Token × Position)) :
    builder.feedAll (dialect.meantAll placed) = builder.feedAll placed ∨ builder.RefusesShort dialect placed := by
  induction placed generalizing builder with
  | nil => exact .inl rfl
  | cons first rest ih =>
    obtain ⟨token, place⟩ := first
    have alike := @feed_meant builder token place
    have split : dialect.meantAll ((token, place) :: rest) = (dialect.meant token, place) :: dialect.meantAll rest := rfl
    rw [spoken] at alike
    obtain same | ⟨rfl, error, refused, named⟩ := alike
    · cases fed : builder.feed token place with
      | error error =>
        left
        rw [split, feedAll, feedAll, same, fed]
      | ok next =>
        rw [fed] at same
        have kept : next.dialect = dialect := (accept_mode (Grammar.feed_eq_ok_iff.mp fed)).2.trans spoken
        obtain later | ⟨before, short, after, middle, error, whole, taken, refused, failed, named⟩ := ih kept
        · left
          rw [split, feedAll, feedAll, same, fed]
          exact later
        · right
          refine ⟨(token, place) :: before, short, after, middle, error, ?_, ?_, refused, ?_, ?_⟩
          · rw [whole, List.cons_append]
          · rw [feedAll, fed]
            exact taken
          · rw [feedAll, fed]
            exact failed
          · rw [split, feedAll, same]
            exact named
    · right
      refine ⟨[], place, rest, builder, error, rfl, rfl, refused, ?_, ?_⟩
      · rw [feedAll, refused]
      · rw [split, feedAll, named]

end Builder

/-- A source without `INCLUDE` has the same document or the same failure in both dialects, unless the strict one
misses a literal handler: the permissive one then goes on behind the string that is there instead. In each
dialect `INCLUDE` may be replaced by what it means; only a report about it tells the difference. -/
theorem parse_dialects (source label : String) :
    ((∀ lexeme ∈ (Scan.ofText source).lexemes, lexeme.token ≠ .keyword .includeWord) →
      ((¬ ∃ error, parse source label .strict = .error (.grammar error) ∧ error.fault = .handlerNotLiteral) →
        parse source label .permissive = parse source label .strict) ∧
      ∀ error, parse source label .strict = .error (.grammar error) → error.fault = .handlerNotLiteral →
        ∃ before text after, (Scan.ofText source).placed (.ofText source) =
            before ++ (.string text, error.position) :: after ∧
          error.token = (Token.string text).display ∧
          ∃ next, (Builder.new label .permissive).feedAll (before ++ [(.string text, error.position)]) = .ok next) ∧
    ∀ (dialect : Dialect) (placed : List (Token × Position)),
      Builder.build label dialect (dialect.meantAll placed) = Builder.build label dialect placed ∨
        ∃ before place after builder error, placed = before ++ (.keyword .includeWord, place) :: after ∧
          (Builder.new label dialect).feedAll before = .ok builder ∧
          builder.feed (.keyword .includeWord) place = .error error ∧
          Builder.build label dialect placed = .error error ∧
          Builder.build label dialect (dialect.meantAll placed) =
            .error { error with token := (dialect.meant (.keyword .includeWord)).display } := by
  constructor
  · intro others
    have plain : ∀ item ∈ (Scan.ofText source).placed (.ofText source), item.1 ≠ .keyword .includeWord := by
      intro item member
      obtain ⟨lexeme, inside, rfl⟩ := List.mem_map.mp member
      exact others lexeme inside
    obtain same | ⟨before, text, place, after, split, stopped, taken⟩ :=
      @Builder.feedAll_speaking (.new label .strict) rfl _ plain
    · have alike : parse source label .permissive = parse source label .strict := by
        have spoken : (Builder.new label .strict).speaking .permissive = .new label .permissive := rfl
        rw [spoken] at same
        simp only [parse, same]
        cases (Builder.new label .strict).feedAll ((Scan.ofText source).placed (.ofText source)) with
        | error _ => rfl
        | ok builder => simp only [Except.map, Builder.finish_speaking]
      refine ⟨fun _ => alike, ?_⟩
      intro error failed demanding
      cases (parse_names (alike.trans failed)).strict demanding
    · have refused : parse source label .strict =
          .error (.grammar ⟨.handlerNotLiteral, .handler, (Token.string text).display, place⟩) := by
        simp only [parse, stopped]
      refine ⟨fun free => absurd ⟨_, refused, rfl⟩ free, ?_⟩
      intro error failed _
      cases refused.symm.trans failed
      exact ⟨before, text, after, split, rfl, taken⟩
  · intro dialect placed
    obtain same | ⟨before, place, after, builder, error, split, fed, refused, failed, named⟩ :=
      @Builder.feedAll_meant (.new label dialect) dialect rfl placed
    · left
      simp only [Builder.build, same]
    · refine .inr ⟨before, place, after, builder, error, split, fed, refused, ?_, ?_⟩
      · simp only [Builder.build, failed]
      · simp only [Builder.build, named]

/-- A handler that is a string, in a source with more after it; and an `INCLUDE` outside of a route. -/
theorem parse_dialects_handler :
    let source := "ROUTE r DOES «h» DOES f USING k"
    let placed : List (Token × Position) := [(.keyword .importWord, ⟨0, 0⟩), (.keyword .includeWord, ⟨0, 7⟩)]
    (∀ lexeme ∈ (Scan.ofText source).lexemes, lexeme.token ≠ .keyword .includeWord) ∧
      parse source "m" .strict = .error (.grammar ⟨.handlerNotLiteral, .handler, "\"f\"", ⟨0, 24⟩⟩) ∧
      (∃ before text after, (Scan.ofText source).placed (.ofText source) =
          before ++ (.string text, ⟨0, 24⟩) :: after ∧
        ∃ next, (Builder.new "m" .permissive).feedAll (before ++ [(.string text, ⟨0, 24⟩)]) = .ok next) ∧
      Builder.build "m" .permissive placed = .error ⟨.outsideRoute, .imports, "INCLUDE", ⟨0, 7⟩⟩ ∧
      Builder.build "m" .permissive (Dialect.permissive.meantAll placed) =
        .error ⟨.outsideRoute, .imports, "INCLUDES", ⟨0, 7⟩⟩ := by
  intro source placed
  have scanned : Scan.ofText source =
      ⟨[⟨.keyword .routeWord, 0, 5⟩, ⟨.string "r", 6, 7⟩, ⟨.keyword .doesWord, 8, 12⟩, ⟨.literal "h", 13, 18⟩,
        ⟨.keyword .doesWord, 19, 23⟩, ⟨.string "f", 24, 25⟩, ⟨.keyword .usingWord, 26, 31⟩,
        ⟨.string "k", 32, 33⟩], none⟩ := by decide +kernel
  have lines : LineMap.ofText source = ⟨[0]⟩ := by decide +kernel
  have plain : ∀ lexeme ∈ (Scan.ofText source).lexemes, lexeme.token ≠ .keyword .includeWord := by
    rw [scanned]
    decide
  have refused : parse source "m" .strict =
      .error (.grammar ⟨.handlerNotLiteral, .handler, "\"f\"", ⟨0, 24⟩⟩) := by
    simp only [parse, scanned, lines]
    rfl
  obtain ⟨before, text, after, split, _, taken⟩ := ((parse_dialects source "m").1 plain).2 _ refused rfl
  exact ⟨plain, refused, ⟨before, text, after, split, taken⟩, rfl, rfl⟩

end RouteDoc
