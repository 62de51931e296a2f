import RouteDoc.Proofs.ContinuedBuilder
import RouteDoc.Proofs.JoinedScans
import RouteDoc.Proofs.PrintedDocuments

/-! The parse of two sources with a line feed between them. If the first has a document and the second starts
with a route, then the second is read as it is alone: its routes are added, or its first failure is the one
that is reported, only further down. -/

namespace RouteDoc

/-- The same failure so many lines further down. -/
def ScanError.below (lines : Nat) : ScanError → ScanError
  | .unclosed kind place => .unclosed kind (place.below lines)
  | .unreadable failure => .unreadable failure

def ParseError.below (lines : Nat) : ParseError → ParseError
  | .scan error => .scan (error.below lines)
  | .grammar error => .grammar (error.moved (.below lines))

/-! `ROUTE` ends what is open exactly as the end of the source does. -/

namespace Grammar
variable {dialect : Dialect} {label : String}

theorem Derives.imports_eq_nil {tokens : List Token} {document : Document}
    (derived : Derives dialect label tokens document) (opens : tokens.head? = some (.keyword .routeWord)) :
    document.imports = [] := by
  cases derived with
  | mk imported _ =>
    cases imported with
    | none => rfl
    | more first _ =>
      cases first
      cases opens

theorem Derives.label_eq {tokens : List Token} {document : Document}
    (derived : Derives dialect label tokens document) : document.label = label := by
  cases derived
  rfl

theorem Settled.kept {tokens : List Token} {builder : Builder} (settled : Settled dialect label tokens builder) :
    builder.dialect = dialect ∧ builder.label = label := by
  cases settled
  exact ⟨rfl, rfl⟩

/-- Closing what is open in a builder whose tokens make up a document leaves that document. -/
theorem Runs.closed {tokens : List Token} {document : Document} (derived : Derives dialect label tokens document)
    (placed : List (Token × Position)) (same : placed.map Prod.fst = tokens) :
    ∃ builder closed, (Builder.new label dialect).feedAll placed = .ok builder ∧ builder.closeRoute = .ok closed ∧
      closed.dialect = dialect ∧ closed.label = label ∧ closed.document = document := by
  obtain ⟨builder, fed, finished⟩ := Runs.document derived placed same
  unfold Builder.finish at finished
  split at finished
  next => cases finished
  next closed closes =>
    obtain ⟨spoken, named⟩ := ((Reached.top.feedAll fed).settle closes).kept
    exact ⟨builder, closed, fed, closes, spoken, named, Except.ok.inj finished⟩

end Grammar

/-- What follows `ROUTE` is built as by a builder that was never fed anything else. -/
theorem Builder.feedAll_route (move : Position → Position) {builder closed : Builder}
    (closes : builder.closeRoute = .ok closed) {placed : List (Token × Position)}
    (opens : (placed.map Prod.fst).head? = some (.keyword .routeWord)) :
    builder.feedAll (placed.map fun (token, place) => (token, move place)) =
      carried (GrammarError.moved move) (after move closed) ((new closed.label closed.dialect).feedAll placed) := by
  cases placed with
  | nil => cases opens
  | cons first placed =>
    obtain ⟨token, place⟩ := first
    cases opens
    let opened : Builder := { new closed.label closed.dialect with route := some {}, mode := .route }
    have taken : builder.feed (.keyword .routeWord) (move place) = .ok (after move closed opened) := by
      simp only [feed, accept, routeKeyword, closes]
      rfl
    have alone : (new closed.label closed.dialect).feed (.keyword .routeWord) place = .ok opened := rfl
    rw [List.map_cons, feedAll, feedAll, taken, alone]
    exact feedAll_after placed opened

/-! Behind other text the lexemes and the unclosed delimiter of a source are the same, at places further down. -/

section
variable (first later : String)

theorem Scan.ofText_join (closed : (ofText first).unclosed = none) :
    ofText (first ++ "\n" ++ later) =
      let moved := (ofText later).shift (Text.width first.toList + 1)
      ⟨(ofText first).lexemes ++ moved.lexemes, moved.unclosed⟩ := by
  have joined := ofChars_join 0 first.toList later.toList closed
  have moved := ofChars_shift (Text.width first.toList + 1) 0 later.toList
  rw [Nat.add_zero] at moved
  rw [Nat.zero_add, moved] at joined
  rw [ofText, String.toList_append, String.toList_append, List.append_assoc]
  exact joined

theorem Scan.placed_join (closed : (ofText first).unclosed = none) :
    (ofText (first ++ "\n" ++ later)).placed (.ofText (first ++ "\n" ++ later)) =
      (ofText first).placed (.ofText (first ++ "\n" ++ later)) ++
        ((ofText later).placed (.ofText later)).map fun (token, place) =>
          (token, place.below (LineMap.ofText first).lineCount) := by
  rw [ofText_join first later closed, placed, placed, placed, Scan.shift, List.map_append, List.map_map, List.map_map]
  apply congrArg
  apply List.map_congr_left
  intro lexeme _
  exact congrArg (Prod.mk lexeme.token) (LineMap.position_join first later lexeme.start)

theorem Unclosed.error_join (unclosed : Unclosed) :
    (unclosed.shift (Text.width first.toList + 1)).error (.ofText (first ++ "\n" ++ later)) =
      (unclosed.error (.ofText later)).below (LineMap.ofText first).lineCount :=
  congrArg (ScanError.unclosed unclosed.kind) (LineMap.position_join first later unclosed.start)

end

theorem parse_join {source later label : String} {dialect : Dialect} {document : Document}
    (parsed : parse source label dialect = .ok document)
    (opens : (Scan.ofText later).lexemes.head?.map Lexeme.token = some (.keyword .routeWord)) :
    parse (source ++ "\n" ++ later) label dialect =
      match parse later label dialect with
      | .ok added => .ok { document with routes := document.routes ++ added.routes }
      | .error error => .error (error.below (LineMap.ofText source).lineCount) := by
  obtain ⟨ends, derived⟩ := parse_eq_ok_iff.mp parsed
  -- The builder takes the tokens of the first source wherever they stand, so the longer line map does not matter.
  have tokens : ((Scan.ofText source).placed (.ofText (source ++ "\n" ++ later))).map Prod.fst =
      (Scan.ofText source).lexemes.map Lexeme.token := by simp [Scan.placed]
  obtain ⟨builder, closed, fed, closes, spoken, named, left⟩ := Grammar.Runs.closed derived _ tokens
  have starts : (((Scan.ofText later).placed (.ofText later)).map Prod.fst).head? = some (.keyword .routeWord) := by
    simpa [Scan.placed] using opens
  have goesOn := Builder.feedAll_route (.below (LineMap.ofText source).lineCount) closes starts
  rw [named, spoken] at goesOn
  have unclosed : (Scan.ofText (source ++ "\n" ++ later)).unclosed =
      (Scan.ofText later).unclosed.map (Unclosed.shift (Text.width source.toList + 1)) :=
    congrArg Scan.unclosed (Scan.ofText_join source later ends)
  simp only [parse]
  rw [Scan.placed_join source later ends, Grammar.feedAll_append fed, goesOn, unclosed]
  cases added : (Builder.new label dialect).feedAll ((Scan.ofText later).placed (.ofText later)) with
  | error error => rfl
  | ok next =>
    cases held : (Scan.ofText later).unclosed with
    | some unclosed => simp [carried, Unclosed.error_join, ParseError.below]
    | none =>
      simp only [carried, Option.map_none, Builder.finish_after]
      cases finished : next.finish with
      | error error => rfl
      | ok second =>
        have alone : parse later label dialect = .ok second := by simp only [parse, added, held, finished]
        have others := (parse_eq_ok_iff.mp alone).2
        have nothing := others.imports_eq_nil (by rw [List.head?_map]; exact opens)
        subst left
        simp [Builder.document, others.label_eq, nothing, named]

/-- The first source ends in a comment that reads like more of it. -/
theorem parse_join_commented :
    let source := "IMPORT a\nROUTE n DOES «f» USING k // FROM"
    let later := "ROUTE \"m\n\""
    let broken := "ROUTE m\n DOES\n  USING p"
    let document : Document := ⟨"d", [.string "a"], [⟨some (.string "n"), none,
      [.invoke ⟨.literal "f", none, [⟨.string "k", none, []⟩]⟩]⟩]⟩
    parse (source ++ "\n" ++ later) "d" .strict =
        .ok { document with routes := document.routes ++ [⟨some (.string "m\n"), none, []⟩] } ∧
      parse (source ++ "\n" ++ broken) "d" .strict =
        .error (.grammar ⟨.missingHandler, .param, "DOES", ⟨3, 1⟩⟩) := by
  intro source later broken document
  have scanned : Scan.ofText source =
      ⟨[⟨.keyword .importWord, 0, 6⟩, ⟨.string "a", 7, 8⟩, ⟨.keyword .routeWord, 9, 14⟩,
        ⟨.string "n", 15, 16⟩, ⟨.keyword .doesWord, 17, 21⟩, ⟨.literal "f", 22, 27⟩,
        ⟨.keyword .usingWord, 28, 33⟩, ⟨.string "k", 34, 35⟩], none⟩ := by decide +kernel
  have added : Scan.ofText later = ⟨[⟨.keyword .routeWord, 0, 5⟩, ⟨.string "m\n", 6, 10⟩], none⟩ := by
    decide +kernel
  have failing : Scan.ofText broken =
      ⟨[⟨.keyword .routeWord, 0, 5⟩, ⟨.string "m", 6, 7⟩, ⟨.keyword .doesWord, 9, 13⟩,
        ⟨.keyword .usingWord, 16, 21⟩, ⟨.string "p", 22, 23⟩], none⟩ := by decide +kernel
  have parsed : parse source "d" .strict = .ok document := by
    simp only [parse, scanned]
    rfl
  have alone : parse later "d" .strict = .ok ⟨"d", [], [⟨some (.string "m\n"), none, []⟩]⟩ := by
    simp only [parse, added]
    rfl
  have refused : parse broken "d" .strict = .error (.grammar ⟨.missingHandler, .param, "DOES", ⟨1, 1⟩⟩) := by
    have lines : LineMap.ofText broken = ⟨[0, 8, 14]⟩ := by decide +kernel
    simp only [parse, failing, lines]
    rfl
  constructor
  · rw [parse_join parsed (by rw [added]; rfl), alone]
  · have lines : (LineMap.ofText source).lineCount = 2 := by decide +kernel
    rw [parse_join parsed (by rw [failing]; rfl), refused, lines]
    rfl

end RouteDoc
