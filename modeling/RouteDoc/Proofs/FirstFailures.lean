import RouteDoc.Parse.Stepwise
import RouteDoc.Proofs.GrammarEquivalence
import RouteDoc.Proofs.Reading

/-! The first failure in the order of the source is the outcome, whichever way the source is read: all tokens first and
then one after another into the builder, or each token as soon as it is found, or from bytes that have to be a text
before anything is looked at. -/

namespace RouteDoc
open Text

/-! What is read. -/

namespace Remainder
variable {remainder later : Remainder} {lexemes : List Lexeme} {failure : Option Unclosed}

/-- The tokens that are taken one after another, up to the end or to a delimiter that is never closed. -/
inductive Gives : Remainder → List Lexeme → Option Unclosed → Prop
  | done {remainder : Remainder} : remainder.next? = none → Gives remainder [] none
  | stops {remainder later : Remainder} {unclosed : Unclosed} : remainder.next? = some (.error unclosed, later) →
      Gives remainder [] (some unclosed)
  | token {remainder later : Remainder} {lexeme : Lexeme} {lexemes : List Lexeme} {failure : Option Unclosed} :
      remainder.next? = some (.ok lexeme, later) → Gives later lexemes failure →
      Gives remainder (lexeme :: lexemes) failure

theorem Gives.of_next? (gives : Gives later lexemes failure) (same : remainder.next? = later.next?) :
    Gives remainder lexemes failure := by
  cases gives with
  | done none => exact .done (same.trans none)
  | stops taken => exact .stops (same.trans taken)
  | token taken more => exact .token (same.trans taken) more

/-- A whole scan is what is taken one by one. -/
theorem gives_ofChars (offset : Nat) (cs : List Char) :
    Gives ⟨offset, cs⟩ (Scan.ofChars offset cs).lexemes (Scan.ofChars offset cs).unclosed := by
  fun_induction Scan.ofChars offset cs with
  | case1 offset => exact .done (next?_nil offset)
  | case2 offset c cs used rest reading ih => exact ih.of_next? (next?_of_gap reading offset)
  | case3 offset c cs token used rest reading stop scan ih => exact .token (next?_of_token reading offset) ih
  | case4 offset c cs kind reading => exact .stops (next?_of_unclosed reading offset)

end Remainder

/-! How a parse ends. -/

/-- The outcome of feeding tokens to a builder, with the failure that comes after them, if there is one. A token that
is refused comes first, then that failure, and then a part that is left unfinished. -/
inductive Builder.Ends (builder : Builder) (tokens : List (Token × Position)) (failure : Option ScanError) :
    Except ParseError Document → Prop
  | refused {accepted later : List (Token × Position)} {token : Token} {place : Position} {reached : Builder}
      {error : GrammarError} : tokens = accepted ++ (token, place) :: later → builder.feedAll accepted = .ok reached →
      reached.feed token place = .error error → Ends builder tokens failure (.error (.grammar error))
  | broken {reached : Builder} {error : ScanError} : builder.feedAll tokens = .ok reached → failure = some error →
      Ends builder tokens failure (.error (.scan error))
  | finished {reached : Builder} : builder.feedAll tokens = .ok reached → failure = none →
      Ends builder tokens failure (reached.finish.mapError .grammar)

namespace Builder
variable {builder next : Builder} {token : Token} {place : Position} {tokens : List (Token × Position)}
  {failure : Option ScanError} {outcome : Except ParseError Document}

theorem feedAll_cons (fed : builder.feed token place = .ok next) (tokens : List (Token × Position)) :
    builder.feedAll ((token, place) :: tokens) = next.feedAll tokens := by
  rw [feedAll, fed]

theorem feedAll_refused {error : GrammarError} (refused : builder.feed token place = .error error)
    (tokens : List (Token × Position)) : builder.feedAll ((token, place) :: tokens) = .error error := by
  rw [feedAll, refused]

/-- A run of tokens fails at the first one that is refused. -/
theorem exists_refused {error : GrammarError} (failed : builder.feedAll tokens = .error error) :
    ∃ accepted token place later reached, tokens = accepted ++ (token, place) :: later ∧
      builder.feedAll accepted = .ok reached ∧ reached.feed token place = .error error := by
  induction tokens generalizing builder with
  | nil => cases failed
  | cons first tokens ih =>
    obtain ⟨token, place⟩ := first
    cases fed : builder.feed token place with
    | error other =>
      rw [feedAll_refused fed] at failed
      cases failed
      exact ⟨[], token, place, tokens, builder, rfl, rfl, fed⟩
    | ok next =>
      rw [feedAll_cons fed] at failed
      obtain ⟨accepted, last, at_, later, reached, rfl, before, refused⟩ := ih failed
      exact ⟨(token, place) :: accepted, last, at_, later, reached, rfl, (feedAll_cons fed accepted).trans before, refused⟩

theorem Ends.unique {other : Except ParseError Document} (ends : Ends builder tokens failure outcome)
    (also : Ends builder tokens failure other) : outcome = other := by
  have stopped {accepted later : List (Token × Position)} {token : Token} {place : Position} {reached : Builder}
      {error : GrammarError} (split : tokens = accepted ++ (token, place) :: later)
      (fed : builder.feedAll accepted = .ok reached) (refused : reached.feed token place = .error error) :
      builder.feedAll tokens = .error error := by
    rw [split, Grammar.feedAll_append fed, feedAll_refused refused]
  cases ends with
  | refused split fed refused =>
    have first := stopped split fed refused
    cases also with
    | refused cut reached error => rw [Except.error.inj (first.symm.trans (stopped cut reached error))]
    | broken fed => exact nomatch first.symm.trans fed
    | finished fed => exact nomatch first.symm.trans fed
  | broken fed failed =>
    cases also with
    | refused cut reached error => exact nomatch fed.symm.trans (stopped cut reached error)
    | broken _ fails => rw [Option.some.inj (failed.symm.trans fails)]
    | finished _ whole => exact nomatch failed.symm.trans whole
  | finished fed whole =>
    cases also with
    | refused cut reached error => exact nomatch fed.symm.trans (stopped cut reached error)
    | broken _ fails => exact nomatch whole.symm.trans fails
    | finished also => rw [Except.ok.inj (fed.symm.trans also)]

/-- A token that is accepted changes nothing but the builder that the rest is fed to. -/
theorem Ends.cons (ends : Ends next tokens failure outcome) (fed : builder.feed token place = .ok next) :
    Ends builder ((token, place) :: tokens) failure outcome := by
  cases ends with
  | @refused accepted later last at_ _ _ split before refused =>
    have whole : (token, place) :: tokens = ((token, place) :: accepted) ++ (last, at_) :: later := congrArg _ split
    exact .refused whole ((feedAll_cons fed accepted).trans before) refused
  | broken reached failed => exact .broken ((feedAll_cons fed tokens).trans reached) failed
  | finished reached whole => exact .finished ((feedAll_cons fed tokens).trans reached) whole

theorem ends_readOn {lineMap : LineMap} {remainder : Remainder} {lexemes : List Lexeme} {failure : Option Unclosed}
    (gives : remainder.Gives lexemes failure) (builder : Builder) :
    builder.Ends (lexemes.map fun lexeme => (lexeme.token, lineMap.position lexeme.start))
      (failure.map (·.error lineMap)) (builder.readOn lineMap remainder) := by
  induction gives generalizing builder with
  | done none =>
    rw [readOn_end none]
    exact .finished rfl rfl
  | stops taken =>
    rw [readOn_unclosed taken]
    exact .broken rfl rfl
  | @token remainder later lexeme lexemes failure taken _ ih =>
    rw [readOn_token taken]
    cases fed : builder.feed lexeme.token (lineMap.position lexeme.start) with
    | error error => exact .refused (List.nil_append _).symm rfl fed
    | ok next => exact (ih next).cons fed

end Builder

theorem ends_parse (source label : String) (dialect : Dialect) :
    (Builder.new label dialect).Ends ((Scan.ofText source).placed (.ofText source))
      ((Scan.ofText source).unclosed.map (·.error (.ofText source))) (parse source label dialect) := by
  unfold parse
  simp only
  split
  next error failed =>
    obtain ⟨accepted, token, place, later, reached, split, fed, refused⟩ := Builder.exists_refused failed
    exact .refused split fed refused
  next reached fed =>
    split
    next unclosed broken => exact .broken fed (by rw [broken]; rfl)
    next whole =>
      have unbroken : (Scan.ofText source).unclosed.map (·.error (.ofText source)) = none := by
        rw [whole]
        rfl
      have finished := Builder.Ends.finished fed unbroken
      cases finish : reached.finish with
      | error error => rwa [finish] at finished
      | ok document => rwa [finish] at finished

/-! Bytes. -/

/-- What can be read is the text that has these bytes. -/
theorem readSource_eq_ok_iff {bytes : ByteArray} {text : String} : readSource bytes = .ok text ↔ text.toUTF8 = bytes := by
  unfold readSource String.fromUTF8?
  rw [String.toUTF8_eq_toByteArray]
  by_cases valid : bytes.IsValidUTF8
  · rw [dif_pos valid]
    constructor
    · intro same
      rw [← Except.ok.inj same]
      rfl
    · rintro rfl
      exact congrArg Except.ok (String.toByteArray_inj.mp rfl)
  · rw [dif_neg valid]
    constructor
    · exact nofun
    · rintro rfl
      exact absurd text.isValidUTF8 valid

theorem readSource_invalid {bytes : ByteArray} (foreign : ∀ text : String, text.toUTF8 ≠ bytes) :
    readSource bytes = .error (.unreadable .invalidUtf8) := by
  cases read : String.fromUTF8? bytes with
  | none => rw [readSource, read]
  | some text =>
    have found : readSource bytes = .ok text := by rw [readSource, read]
    exact absurd (readSource_eq_ok_iff.mp found) (foreign text)

/-- A source is read up to its first failure, whether its tokens are all taken first or each is fed as soon as it is
taken. Bytes that make no text fail before any of it. -/
theorem parse_first_failure (label : String) (dialect : Dialect) :
    (∀ source, ∃ lexemes failure, (Remainder.ofText source).Gives lexemes failure ∧
      tokenize source = (match failure with
        | some unclosed => .error (unclosed.error (.ofText source))
        | none => .ok lexemes) ∧
      parseStepwise source label dialect = parse source label dialect ∧
      ∀ outcome, parse source label dialect = outcome ↔
        (Builder.new label dialect).Ends
          (lexemes.map fun lexeme => (lexeme.token, (LineMap.ofText source).position lexeme.start))
          (failure.map (·.error (.ofText source))) outcome) ∧
    ∀ bytes : ByteArray,
      (∀ source : String, source.toUTF8 = bytes →
        parseReader ⟨bytes, none⟩ label dialect = parse source label dialect) ∧
      ((∀ source : String, source.toUTF8 ≠ bytes) →
        parseReader ⟨bytes, none⟩ label dialect = .error (.scan (.unreadable .invalidUtf8))) := by
  constructor
  · intro source
    have gives := Remainder.gives_ofChars 0 source.toList
    have ends := ends_parse source label dialect
    refine ⟨_, _, gives, rfl, (Builder.ends_readOn gives _).unique ends, ?_⟩
    intro outcome
    constructor
    · rintro rfl
      exact ends
    · exact ends.unique
  · intro bytes
    constructor
    · intro source same
      have read : Reader.text ⟨bytes, none⟩ = .ok source := readSource_eq_ok_iff.mpr same
      rw [parseReader, read]
    · intro foreign
      have unread : Reader.text ⟨bytes, none⟩ = .error (.unreadable .invalidUtf8) := readSource_invalid foreign
      rw [parseReader, unread]

/-- A token that is refused before a quote that is never closed, such a quote behind an unfinished part, and a token that
is refused before a byte that stands in no text. -/
theorem parse_first_failure_faults :
    let torn := "FROM ".toUTF8.push 0xff
    parseStepwise "FROM '" "m" .strict = .error (.grammar ⟨.fromOutsideUsing, .top, "FROM", ⟨0, 0⟩⟩) ∧
      parseStepwise "ROUTE r DOES '" "m" .strict = .error (.scan (.unclosed .string ⟨0, 13⟩)) ∧
      parseReader ⟨"FROM '".toUTF8, none⟩ "m" .strict = parse "FROM '" "m" .strict ∧
      parseReader ⟨torn, none⟩ "m" .strict = .error (.scan (.unreadable .invalidUtf8)) := by
  intro torn
  obtain ⟨sources, readers⟩ := parse_first_failure "m" .strict
  have refused : parse "FROM '" "m" .strict = .error (.grammar ⟨.fromOutsideUsing, .top, "FROM", ⟨0, 0⟩⟩) := by
    have scanned : Scan.ofText "FROM '" = ⟨[⟨.keyword .fromWord, 0, 4⟩], some ⟨.string, 5⟩⟩ := by decide +kernel
    have lines : LineMap.ofText "FROM '" = ⟨[0]⟩ := by decide +kernel
    simp only [parse, scanned, lines]
    rfl
  have unclosed : parse "ROUTE r DOES '" "m" .strict = .error (.scan (.unclosed .string ⟨0, 13⟩)) := by
    have scanned : Scan.ofText "ROUTE r DOES '" =
        ⟨[⟨.keyword .routeWord, 0, 5⟩, ⟨.string "r", 6, 7⟩, ⟨.keyword .doesWord, 8, 12⟩], some ⟨.string, 13⟩⟩ := by
      decide +kernel
    have lines : LineMap.ofText "ROUTE r DOES '" = ⟨[0]⟩ := by decide +kernel
    simp only [parse, scanned, lines]
    rfl
  have foreign : ∀ source : String, source.toUTF8 ≠ torn := by
    intro source same
    have valid : torn.IsValidUTF8 := same ▸ source.isValidUTF8
    revert valid
    decide +kernel
  obtain ⟨_, _, _, _, first, _⟩ := sources "FROM '"
  obtain ⟨_, _, _, _, second, _⟩ := sources "ROUTE r DOES '"
  exact ⟨first.trans refused, second.trans unclosed, (readers _).1 _ rfl, (readers torn).2 foreign⟩

end RouteDoc
