import RouteDoc.Proofs.CodeLines

/-! What generated code tells about its document: all of it, except whether an empty text was given or left
out. The code is read back line by line. A line ends at its line feed, since neither a quoted text nor a
literal holds one; its indentation tells what it is about, and the semicolon ends a route. Inside of a line a
quoted text shows its own end, and a literal goes on to what has to stand between it and the next quote. -/

namespace RouteDoc

/-- A value, or the empty string where there is none. -/
def Value.orEmpty (value : Option Value) : Value := value.getD (.string "")

/-- A command with the empty string for a name that is absent. -/
def Command.filled : Command → Command
  | .includes name => .includes name
  | .invoke invocation => .invoke { invocation with name := some (.orEmpty invocation.name) }

/-- A route with empty strings for names and descriptions that are absent. -/
def Route.filled (route : Route) : Route :=
  { name := some (.orEmpty route.name)
    description := some (.orEmpty route.description)
    commands := route.commands.map Command.filled }

/-! Reading back what is written. -/

/-- What is written in front of other things can be told from it, as far as the view goes: two sequences that
are the same start with the same item, and go on in the same way. -/
def Recovers {α β σ : Type} (write : α → List σ) (view : α → β) (valid : α → Prop) (next : List σ → Prop) : Prop :=
  ∀ ⦃item other⦄, valid item → valid other → ∀ ⦃rest more⦄, next rest → next more →
    write item ++ rest = write other ++ more → view item = view other ∧ rest = more

/-- Items one after another, up to something that is no item. -/
theorem Recovers.flatMap {α β σ : Type} {write : α → List σ} {view : α → β} {valid : α → Prop}
    {next last : List σ → Prop} (each : Recovers write view valid next)
    (follows : ∀ item rest, valid item → next (write item ++ rest)) (ends : ∀ rest, last rest → next rest)
    (starts : ∀ item rest, valid item → ¬ last (write item ++ rest)) :
    Recovers (List.flatMap write) (List.map view) (∀ item ∈ ·, valid item) last := by
  have between (items : List α) (valid : ∀ item ∈ items, valid item) (rest : List σ) (after : last rest) :
      next (items.flatMap write ++ rest) := by
    cases items with
    | nil => exact ends rest after
    | cons item items =>
      rw [List.flatMap_cons, List.append_assoc]
      exact follows item _ (valid item List.mem_cons_self)
  intro items others valid suits rest more after later same
  induction items generalizing others with
  | nil =>
    cases others with
    | nil => exact ⟨rfl, same⟩
    | cons other others =>
      rw [List.flatMap_nil, List.nil_append, List.flatMap_cons, List.append_assoc] at same
      exact absurd (same ▸ after) (starts other _ (suits other List.mem_cons_self))
  | cons item items ih =>
    cases others with
    | nil =>
      rw [List.flatMap_nil, List.nil_append, List.flatMap_cons, List.append_assoc] at same
      exact absurd (same ▸ later) (starts item _ (valid item List.mem_cons_self))
    | cons other others =>
      obtain ⟨first, valid⟩ := List.forall_mem_cons.mp valid
      obtain ⟨second, suits⟩ := List.forall_mem_cons.mp suits
      rw [List.flatMap_cons, List.flatMap_cons, List.append_assoc, List.append_assoc] at same
      obtain ⟨seen, same⟩ := each first second (between items valid rest after) (between others suits more later) same
      obtain ⟨views, same⟩ := ih valid suits same
      exact ⟨by rw [List.map_cons, List.map_cons, seen, views], same⟩

/-- Something that may be left out, and that starts differently from what follows it. -/
theorem Recovers.orNothing {α β σ : Type} {write : α → List σ} {view : α → β} {valid : α → Prop}
    {last : List σ → Prop} (filled : α → Prop)
    (present : Recovers write view (fun item => valid item ∧ filled item) last)
    (absent : ∀ item, ¬ filled item → write item = [])
    (alike : ∀ item other, ¬ filled item → ¬ filled other → view item = view other)
    (starts : ∀ item rest, filled item → ¬ last (write item ++ rest)) : Recovers write view valid last := by
  intro item other suits fits rest more after later same
  by_cases first : filled item
  · by_cases second : filled other
    · exact present ⟨suits, first⟩ ⟨fits, second⟩ after later same
    · rw [absent other second, List.nil_append] at same
      exact absurd (same ▸ later) (starts item rest first)
  · rw [absent item first, List.nil_append] at same
    by_cases second : filled other
    · exact absurd (same ▸ after) (starts other more second)
    · rw [absent other second, List.nil_append] at same
      exact ⟨alike item other first second, same⟩

/-- What stands before the first mark is the same in texts that are the same. -/
theorem Text.append_mark_inj {mark : Char} {before other rest more : List Char} (absent : mark ∉ before)
    (missing : mark ∉ other) (same : before ++ mark :: rest = other ++ mark :: more) :
    before = other ∧ rest = more := by
  have cut := congrArg (cutAt? mark) same
  rw [cutAt?_append rest absent, cutAt?_append more missing] at cut
  exact Prod.mk.inj (Option.some.inj cut)

namespace Registration
open Text

/-! Quoted texts. -/

theorem recovers_quoted : Recovers (fun text => (quoted text).toList) id (fun _ => True) (fun _ => True) := by
  intro text other _ _ rest more _ _ same
  simp only [quoted, String.toList_ofList, List.cons_append, List.append_assoc, List.cons.injEq, true_and,
    List.nil_append] at same
  have cut := congrArg (Scan.untilQuote '\x22') same
  rw [untilQuote_escape, untilQuote_escape, Option.some.injEq, Prod.mk.injEq] at cut
  have texts := congrArg Code.decode? cut.1
  rw [decode?_escape, decode?_escape, Option.some.injEq] at texts
  exact ⟨String.toList_inj.mp texts, cut.2⟩

/-- Not literal code. -/
def Spoken (value : Value) : Prop := value.isLiteral = false

theorem recovers_string : Recovers (fun value : Value => value.code.toList) id Spoken (fun _ => True) := by
  intro value other spoken speaks rest more _ _ same
  cases value with
  | literal => cases spoken
  | string text =>
    cases other with
    | literal => cases speaks
    | string more =>
      obtain ⟨texts, rests⟩ := recovers_quoted trivial trivial trivial trivial same
      exact ⟨congrArg Value.string texts, rests⟩

theorem codeOrEmpty_eq (value : Option Value) : codeOrEmpty value = (Value.orEmpty value).code := by
  cases value with
  | none => decide
  | some _ => rfl

theorem spoken_orEmpty {value : Option Value} (spoken : ∀ given ∈ value, Spoken given) :
    Spoken (Value.orEmpty value) := by
  cases value with
  | none => rfl
  | some given => exact spoken given rfl

/-- What is quoted starts with a quote. -/
theorem code_of_spoken {value : Value} (spoken : Spoken value) : ∃ rest, value.code.toList = '\x22' :: rest := by
  cases value with
  | literal => cases spoken
  | string text => exact ⟨_, by rw [Value.code, quoted, String.toList_ofList]⟩

/-! Calls. -/

/-- What stands in a call is recovered from it. -/
theorem recovers_between {α β : Type} {code : α → String} {view : α → β} {valid : α → Prop} (first last : String)
    (inner : Recovers (fun item => (code item).toList) view valid (fun _ => True)) :
    Recovers (fun item => (first ++ code item ++ last).toList) view valid (fun _ => True) := by
  intro item other suits fits rest more _ _ same
  simp only [String.toList_append, List.append_assoc] at same
  obtain ⟨views, same⟩ := inner suits fits trivial trivial (List.append_cancel_left same)
  exact ⟨views, List.append_cancel_left same⟩

theorem recovers_sources : Recovers (List.flatMap fun source => (sourceCall source).toList) (List.map id)
    (∀ source ∈ ·, Spoken source) (fun rest => rest.head? ≠ some '.') := by
  apply (recovers_between ".from(" ")" recovers_string).flatMap
  · exact fun _ _ _ => trivial
  · exact fun _ _ => trivial
  · intro source rest _ other
    exact other (by simp)

theorem sources_injective {sources others : List Value} (spoken : ∀ source ∈ sources, Spoken source)
    (speaks : ∀ source ∈ others, Spoken source)
    (same : sources.flatMap (fun source => (sourceCall source).toList) =
      others.flatMap fun source => (sourceCall source).toList) : sources = others := by
  have ends : ([] : List Char).head? ≠ some '.' := nofun
  have found := (recovers_sources spoken speaks ends ends (congrArg (· ++ []) same)).1
  rwa [List.map_id, List.map_id] at found

/-- A literal on one line of code that is no string literal for anyone who reads it. -/
def Plain (value : Value) : Prop :=
  value.isLiteral = true → '\x22' ∉ value.text.toList ∧ '\n' ∉ value.text.toList

theorem Plain.unbroken {value : Value} (plain : Plain value) : Unbroken value := fun pasted => (plain pasted).2

/-- The first quote behind a default, if there is one, is that of the first source. -/
theorem sources_open {sources : List Value} (spoken : ∀ source ∈ sources, Spoken source) :
    sources = [] ∨ ∃ rest, ')' :: sources.flatMap (fun source => (sourceCall source).toList) =
      ").from(".toList ++ '\x22' :: rest := by
  cases sources with
  | nil => exact .inl rfl
  | cons source sources =>
    obtain ⟨rest, code⟩ := code_of_spoken (spoken source List.mem_cons_self)
    right
    refine ⟨rest ++ ')' :: sources.flatMap fun source => (sourceCall source).toList, ?_⟩
    simp [sourceCall, code]

/-- The text of a literal ends where the calls for the sources begin, whatever stands in it. -/
theorem literal_before_sources {text other : List Char} {sources others : List Value}
    (unquoted : '\x22' ∉ text) (plain : '\x22' ∉ other) (spoken : ∀ source ∈ sources, Spoken source)
    (speaks : ∀ source ∈ others, Spoken source)
    (same : text ++ ')' :: sources.flatMap (fun source => (sourceCall source).toList) =
      other ++ ')' :: others.flatMap fun source => (sourceCall source).toList) :
    text = other ∧ sources = others := by
  have whole : text = other := by
    obtain rfl | ⟨rest, quoted⟩ := sources_open spoken
    · obtain rfl | ⟨more, ends⟩ := sources_open speaks
      · exact List.append_cancel_right same
      · rw [ends] at same
        have absent : '\x22' ∉ text ++ [')'] := by simp [unquoted]
        exact absurd (same ▸ by simp) absent
    · obtain rfl | ⟨more, ends⟩ := sources_open speaks
      · rw [quoted] at same
        have absent : '\x22' ∉ other ++ [')'] := by simp [plain]
        exact absurd (same ▸ by simp) absent
      · rw [quoted, ends, ← List.append_assoc, ← List.append_assoc] at same
        have unquoted : '\x22' ∉ text ++ ").from(".toList := by simp [unquoted]
        have plain : '\x22' ∉ other ++ ").from(".toList := by simp [plain]
        exact List.append_cancel_right (append_mark_inj unquoted plain same).1
  subst whole
  have rests := List.cons.inj (List.append_cancel_left same)
  exact ⟨rfl, sources_injective spoken speaks rests.2⟩

/-- A call for a source does not start like the one for a default. -/
theorem sources_ne_defaultCall (given : Value) (sources : List Value) (rest : List Char) :
    sources.flatMap (fun source => (sourceCall source).toList) ≠ (defaultCall (some given)).toList ++ rest := by
  cases sources <;> simp [sourceCall, defaultCall]

/-- A string as the default starts with a quote, a literal with anything else. -/
theorem literal_ne_quoted {text : String} (plain : Plain (.literal text)) (rest more : List Char) :
    text.toList ++ ')' :: rest ≠ '\x22' :: more := by
  intro same
  cases cs : text.toList with
  | nil => simp [cs] at same
  | cons c cs =>
    have first : c = '\x22' := by simp_all
    exact (plain rfl).1 (by simp [Value.text, cs, first])

theorem defaultCall_injective {value other : Option Value} {sources others : List Value}
    (plain : ∀ given ∈ value, Plain given) (unquoted : ∀ given ∈ other, Plain given)
    (spoken : ∀ source ∈ sources, Spoken source) (speaks : ∀ source ∈ others, Spoken source)
    (same : (defaultCall value).toList ++ sources.flatMap (fun source => (sourceCall source).toList) =
      (defaultCall other).toList ++ others.flatMap fun source => (sourceCall source).toList) :
    value = other ∧ sources = others := by
  cases value with
  | none =>
    cases other with
    | none => exact ⟨rfl, sources_injective spoken speaks same⟩
    | some given => exact absurd same (sources_ne_defaultCall given sources _)
  | some value =>
    cases other with
    | none => exact absurd same.symm (sources_ne_defaultCall value others _)
    | some other =>
      simp only [defaultCall, String.toList_append, List.append_assoc] at same
      replace same := List.append_cancel_left same
      cases value with
      | literal text =>
        cases other with
        | literal more =>
          obtain ⟨texts, sources⟩ := literal_before_sources (plain _ rfl rfl).1 (unquoted _ rfl rfl).1 spoken speaks same
          exact ⟨congrArg (some ∘ Value.literal) (String.toList_inj.mp texts), sources⟩
        | string more =>
          simp only [Value.code, quoted, String.toList_ofList] at same
          exact absurd same (literal_ne_quoted (plain _ rfl) _ _)
      | string text =>
        cases other with
        | literal more =>
          simp only [Value.code, quoted, String.toList_ofList] at same
          exact absurd same.symm (literal_ne_quoted (unquoted _ rfl) _ _)
        | string more =>
          obtain ⟨texts, rests⟩ := recovers_quoted trivial trivial trivial trivial same
          have calls := List.append_cancel_left rests
          exact ⟨congrArg (some ∘ Value.string) texts, sources_injective spoken speaks calls⟩

/-- A regular binding whose literals are plain. -/
def PlainParam (param : Param) : Prop := param.Regular ∧ ∀ value ∈ param.values, Plain value

theorem usingCall_injective {param other : Param} (plain : PlainParam param) (suits : PlainParam other)
    (same : usingCall param = usingCall other) : param = other := by
  have given {param : Param} (plain : PlainParam param) : ∀ value ∈ param.default, Plain value := by
    intro value member
    exact plain.2 value (Param.mem_values_of_default member)
  replace same := congrArg String.toList same
  simp only [usingCall, String.toList_append, toList_concat, List.append_assoc] at same
  replace same := List.append_cancel_left same
  obtain ⟨names, rests⟩ := recovers_string plain.1.name suits.1.name trivial trivial same
  obtain ⟨defaults, sources⟩ := defaultCall_injective (given plain) (given suits) plain.1.sources suits.1.sources
    (List.append_cancel_left rests)
  cases param
  cases other
  simp_all

theorem literal_of_isLiteral {value : Value} (pasted : value.isLiteral = true) : value = .literal value.text := by
  cases value with
  | literal => rfl
  | string => cases pasted

theorem doesCall_injective {invocation other : Invoke} (regular : invocation.Regular) (suits : other.Regular)
    (plain : Plain invocation.handler) (unquoted : Plain other.handler)
    (same : doesCall invocation = doesCall other) :
    invocation.handler = other.handler ∧ Value.orEmpty invocation.name = Value.orEmpty other.name := by
  have absent {handler : Value} (pasted : handler.isLiteral = true) (plain : Plain handler) :
      '\x22' ∉ handler.code.toList ++ ", ".toList := by
    rw [literal_of_isLiteral pasted]
    simpa [Value.code] using (plain pasted).1
  replace same := congrArg String.toList same
  simp only [doesCall, codeOrEmpty_eq, String.toList_append, List.append_assoc] at same
  replace same := List.append_cancel_left same
  rw [← List.append_assoc, ← List.append_assoc other.handler.code.toList] at same
  -- The first quote is that of the name.
  have handlers : invocation.handler.code.toList ++ ", ".toList = other.handler.code.toList ++ ", ".toList := by
    obtain ⟨rest, opens⟩ := code_of_spoken (spoken_orEmpty regular.name)
    obtain ⟨more, starts⟩ := code_of_spoken (spoken_orEmpty suits.name)
    rw [opens, starts, List.cons_append, List.cons_append] at same
    exact (append_mark_inj (absent regular.handler plain) (absent suits.handler unquoted) same).1
  rw [handlers] at same
  have names := recovers_string (spoken_orEmpty regular.name) (spoken_orEmpty suits.name) trivial trivial
    (List.append_cancel_left same)
  have texts := String.toList_inj.mp (List.append_cancel_right handlers)
  rw [literal_of_isLiteral regular.handler, literal_of_isLiteral suits.handler] at texts ⊢
  exact ⟨congrArg Value.literal texts, names.1⟩

/-! The lines of a route tell what it is made of. -/

/-- A regular command whose literals are plain. -/
def PlainCommand (command : Command) : Prop := command.Regular ∧ ∀ value ∈ command.values, Plain value

theorem PlainCommand.params {invocation : Invoke} (plain : PlainCommand (.invoke invocation)) :
    ∀ param ∈ invocation.params, PlainParam param := by
  intro param member
  refine ⟨plain.1.params param member, ?_⟩
  intro value held
  exact plain.2 value (Command.mem_values_of_param member held)

/-- A regular route whose literals are plain. -/
def PlainRoute (route : Route) : Prop := route.Regular ∧ ∀ value ∈ route.values, Plain value

theorem PlainRoute.commands {route : Route} (plain : PlainRoute route) :
    ∀ command ∈ route.commands, PlainCommand command := by
  intro command member
  refine ⟨plain.1.commands command member, ?_⟩
  intro value held
  exact plain.2 value (Route.mem_values_of_command member held)

theorem recovers_params : Recovers (List.flatMap fun param => [(3, usingCall param)]) (List.map id)
    (∀ param ∈ ·, PlainParam param) (fun rest : List (Nat × String) => ∀ line ∈ rest.head?, line.1 ≠ 3) := by
  have each : Recovers (fun param => [(3, usingCall param)]) id PlainParam (fun _ => True) := by
    intro param other plain suits rest more _ _ same
    obtain ⟨calls, same⟩ := List.cons.inj same
    exact ⟨usingCall_injective plain suits (Prod.mk.inj calls).2, same⟩
  apply each.flatMap
  · exact fun _ _ _ => trivial
  · exact fun _ _ => trivial
  · intro param rest _ other
    exact other _ rfl rfl

theorem recovers_command : Recovers commandLines Command.filled PlainCommand
    (fun rest => ∀ line ∈ rest.head?, line.1 ≠ 3) := by
  have differs (name : Value) (invocation : Invoke) : includesCall name ≠ doesCall invocation := by
    intro same
    have starts := congrArg (fun text => text.toList.take 2) same
    simp [includesCall, doesCall] at starts
  intro command other plain suits rest more after later same
  cases command with
  | includes name =>
    cases other with
    | includes other =>
      obtain ⟨calls, same⟩ := List.cons.inj same
      have code := congrArg String.toList (Prod.mk.inj calls).2
      have found := @recovers_between _ _ _ _ _ ".includes(" ")" recovers_string name other plain.1 suits.1 [] [] trivial
        trivial (by simpa [includesCall] using code)
      exact ⟨congrArg Command.includes found.1, same⟩
    | invoke invocation =>
      have calls := (List.cons.inj same).1
      exact absurd (Prod.mk.inj calls).2 (differs name invocation)
  | invoke invocation =>
    cases other with
    | includes name =>
      have calls := (List.cons.inj same).1
      exact absurd (Prod.mk.inj calls).2.symm (differs name invocation)
    | invoke other =>
      obtain ⟨calls, same⟩ := List.cons.inj same
      obtain ⟨handlers, names⟩ := doesCall_injective plain.1 suits.1 (plain.2 _ List.mem_cons_self)
        (suits.2 _ List.mem_cons_self) (Prod.mk.inj calls).2
      obtain ⟨params, same⟩ := recovers_params plain.params suits.params after later
        (by simpa [← List.map_eq_flatMap] using same)
      rw [List.map_id, List.map_id] at params
      exact ⟨by simp [Command.filled, handlers, names, params], same⟩

theorem routeLines_injective {route other : Route} (plain : PlainRoute route) (suits : PlainRoute other)
    (same : routeLines route = routeLines other) : route.filled = other.filled := by
  obtain ⟨opening, commands⟩ := List.cons.inj same
  have code := congrArg String.toList (Prod.mk.inj opening).2
  simp only [codeOrEmpty_eq, String.toList_append, List.append_assoc] at code
  replace code := List.append_cancel_left code
  obtain ⟨names, code⟩ := recovers_string (spoken_orEmpty plain.1.name) (spoken_orEmpty suits.1.name) trivial trivial code
  replace code := List.append_cancel_left code
  obtain ⟨descriptions, _⟩ := recovers_string (spoken_orEmpty plain.1.description) (spoken_orEmpty suits.1.description)
    trivial trivial code
  have each : Recovers (List.flatMap commandLines) (List.map Command.filled) (∀ command ∈ ·, PlainCommand command)
      (· = []) := by
    apply recovers_command.flatMap
    · intro command rest _
      cases command <;> simp [commandLines]
    · rintro _ rfl line first
      cases first
    · intro command rest _ none
      cases command <;> simp [commandLines] at none
  obtain ⟨commands, _⟩ := each plain.commands suits.commands rfl rfl (congrArg (· ++ []) commands)
  rw [id, id] at names descriptions
  simp [Route.filled, names, descriptions, commands]

end Registration
end RouteDoc
