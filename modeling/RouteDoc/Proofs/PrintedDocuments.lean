import RouteDoc.Parse
import RouteDoc.Proofs.GrammarEquivalence
import RouteDoc.Proofs.Reprinting
import RouteDoc.Proofs.SpellingRoundTrip

/-! A document that was read from a source can be written as a source, and reading that gives the
document again. -/

namespace RouteDoc
open Text Spelling

theorem Spelling.body_escape (text : List Char) : Body '\x22' (text.flatMap Token.escape) text := by
  induction text with
  | nil => exact .nil
  | cons c text ih =>
    rw [List.flatMap_cons, Token.escape]
    split
    next => exact .escaped ih
    next plain =>
      obtain ⟨other, solid⟩ := not_or.mp plain
      exact .plain other solid ih

theorem Token.Printable.spells {token : Token} (printable : token.Printable) :
    ∃ ending, Spells token token.spelling ending := by
  cases token with
  | keyword word => exact ⟨_, .keyword word⟩
  | string text =>
    have spells := Spells.quotes (.inl rfl) (body_escape text.toList)
    exact ⟨_, by simpa [Token.spelling] using spells⟩
  | literal text =>
    by_cases held : '\x60' ∈ text.toList
    · have spells := Spells.guillemets (printable.resolve_left (not_not_intro held))
      exact ⟨_, by simpa [Token.spelling, held] using spells⟩
    · have spells := Spells.backticks held
      exact ⟨_, by simpa [Token.spelling, held] using spells⟩

/-- Single spaces are gap enough, whichever tokens stand on their sides. -/
theorem Layout.spaced {tokens : List Token} (printable : ∀ token ∈ tokens, token.Printable) {gap : List Char}
    (skipped : Gap gap) (offset : Nat) :
    ∃ lexemes : List Lexeme, lexemes.map Lexeme.token = tokens ∧
      Layout offset lexemes (gap ++ [' '].intercalate (tokens.map Token.spelling)) := by
  induction tokens generalizing gap offset with
  | nil =>
    refine ⟨[], rfl, .last (.closed ?_)⟩
    simpa using skipped
  | cons token tokens ih =>
    obtain ⟨ending, spells⟩ := (printable token List.mem_cons_self).spells
    have others : ∀ other ∈ tokens, other.Printable := fun other member =>
      printable other (List.mem_cons_of_mem token member)
    cases tokens with
    | nil =>
      have whole : gap ++ [' '].intercalate ([token].map Token.spelling) = gap ++ token.spelling ++ [] := by simp
      rw [whole]
      refine ⟨_, ?_, .more skipped spells trivial (.last (.closed .nil))⟩
      rfl
    | cons next tokens =>
      have space : Gap [' '] := .blank (by decide) .nil
      obtain ⟨lexemes, same, layout⟩ := ih others space (offset + width (gap ++ token.spelling))
      have admits : ending.admits ([' '] ++ [' '].intercalate ((next :: tokens).map Token.spelling)) := by
        cases ending <;> trivial
      have whole : gap ++ [' '].intercalate ((token :: next :: tokens).map Token.spelling) =
          gap ++ token.spelling ++ ([' '] ++ [' '].intercalate ((next :: tokens).map Token.spelling)) := by simp
      rw [whole]
      refine ⟨_, ?_, .more skipped spells admits layout⟩
      simp [same]

/-- A source has a document if and only if it is closed and the grammar derives the document from its
tokens. -/
theorem parse_eq_ok_iff {source label : String} {dialect : Dialect} {document : Document} :
    parse source label dialect = .ok document ↔
      (Scan.ofText source).unclosed = none ∧
        Grammar.Derives dialect label ((Scan.ofText source).lexemes.map Lexeme.token) document := by
  have tokens : ((Scan.ofText source).placed (.ofText source)).map Prod.fst =
      (Scan.ofText source).lexemes.map Lexeme.token := by simp [Scan.placed]
  constructor
  · intro parsed
    simp only [parse] at parsed
    split at parsed
    next => cases parsed
    next builder fed =>
      split at parsed
      next => cases parsed
      next closed =>
        split at parsed
        next => cases parsed
        next finished =>
          cases parsed
          have derived := (Grammar.Reached.top.feedAll fed).finish finished
          rw [tokens] at derived
          exact ⟨closed, by simpa using derived⟩
  · rintro ⟨closed, derived⟩
    obtain ⟨builder, fed, finished⟩ := Grammar.Runs.document derived _ tokens
    simp [parse, fed, closed, finished]

theorem parse_source {source label : String} {dialect : Dialect} {document : Document}
    (parsed : parse source label dialect = .ok document) :
    parse document.source label dialect = .ok document := by
  obtain ⟨_, derived⟩ := parse_eq_ok_iff.mp parsed
  have printable : ∀ token ∈ (Scan.ofText source).lexemes.map Lexeme.token, token.Printable :=
    List.forall_mem_map.mpr (Scan.printable_ofText source)
  have written := derived.prints printable
  obtain ⟨lexemes, same, layout⟩ := Layout.spaced written.2 .nil 0
  have scanned : Scan.ofText document.source = ⟨lexemes, none⟩ := by
    rw [Scan.ofText, Document.source, String.toList_ofList]
    exact Scan.ofChars_layout layout
  rw [parse_eq_ok_iff, scanned, same]
  exact ⟨rfl, written.1⟩

/-- A string that reads like a keyword when it stands bare, and a handler that no literal can spell. -/
theorem parse_source_dense :
    let source := "IMPORT 'b\"\\\\' ROUTE n 'ROUTE' DOES \"\x60»\" USING\u00a0USING k «\x60» FROM s"
    let written := "IMPORT \"b\\\"\\\\\" ROUTE \"n\" \"ROUTE\" DOES \"\x60»\" \"USING\" USING \"k\" «\x60» FROM \"s\""
    ∃ document, parse source "m" .permissive = .ok document ∧ document.source = written ∧
      parse document.source "m" .permissive = .ok document := by
  intro source written
  let document : Document :=
    { label := "m"
      imports := [.string "b\"\\"]
      routes := [
        { name := some (.string "n")
          description := some (.string "ROUTE")
          commands := [.invoke {
            handler := .literal "\x60»"
            name := some (.string "USING")
            params := [
              { name := .string "k", default := some (.literal "\x60"), sources := [.string "s"] }] }] }] }
  have scanned : Scan.ofText source =
      ⟨[⟨.keyword .importWord, 0, 6⟩, ⟨.string "b\"\\", 7, 13⟩, ⟨.keyword .routeWord, 14, 19⟩,
        ⟨.string "n", 20, 21⟩, ⟨.string "ROUTE", 22, 29⟩, ⟨.keyword .doesWord, 30, 34⟩,
        ⟨.string "\x60»", 35, 40⟩, ⟨.string "USING", 41, 46⟩, ⟨.keyword .usingWord, 48, 53⟩,
        ⟨.string "k", 54, 55⟩, ⟨.literal "\x60", 56, 61⟩, ⟨.keyword .fromWord, 62, 66⟩,
        ⟨.string "s", 67, 68⟩], none⟩ := by decide +kernel
  have parsed : parse source "m" .permissive = .ok document := by
    simp only [parse, scanned]
    rfl
  exact ⟨document, parsed, by decide +kernel, parse_source parsed⟩

end RouteDoc
