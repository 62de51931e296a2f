import RouteDoc.Proofs.ErrorBlame
import RouteDoc.Proofs.ScanCoverage
import RouteDoc.Proofs.SourceLines

/-! The excerpt for an error marks the line that the error is about. An error refers to a token or to an opening
delimiter; both start with a character that is not blank, and such a character is on the line that its place
names, behind as many bytes as its column says. -/

namespace RouteDoc
open Text Spelling

/-- Where an error refers to: the byte at which a token or an opening delimiter starts, and the characters of
that token, or all from that delimiter on. -/
inductive ParseError.RefersTo (source : String) : ParseError → Nat → List Char → Prop
  | token {error : GrammarError} {lexeme : Lexeme} {piece : List Char} :
      lexeme ∈ (Scan.ofText source).lexemes → Between source lexeme.start lexeme.stop piece →
      Written lexeme.token piece →
      error.token = lexeme.token.display ∨
        lexeme.token = .keyword .includeWord ∧ error.token = Keyword.includesWord.text →
      RefersTo source (.grammar error) lexeme.start piece
  | delimiter {unclosed : Unclosed} {place : Position} {rest : List Char} :
      (Scan.ofText source).unclosed = some unclosed → Between source unclosed.start source.utf8ByteSize rest →
      Unending unclosed.kind rest → RefersTo source (.scan (.unclosed unclosed.kind place)) unclosed.start rest

/-! Tokens and delimiters start with a character that is not blank. -/

/-- The first of some characters is there, and is not blank. -/
def StartsSolid (piece : List Char) : Prop := ∃ c rest, piece = c :: rest ∧ isBlank c = false

theorem Spelling.Word.startsSolid {word : List Char} (solid : Word word) : StartsSolid word := by
  obtain ⟨c, rest, rfl⟩ := List.exists_cons_of_ne_nil solid.notEmpty
  exact ⟨c, rest, rfl, solid.unbroken c List.mem_cons_self⟩

theorem isBlank_quote {quote : Char} (quotes : quote = '\x22' ∨ quote = '\x27') : isBlank quote = false := by
  obtain rfl | rfl := quotes <;> rfl

theorem Written.startsSolid {token : Token} {piece : List Char} (written : Written token piece) :
    StartsSolid piece := by
  obtain ⟨_, spells⟩ | ⟨word, _, rfl⟩ := written
  · cases spells with
    | keyword word => exact (Scan.word_keyword word).startsSolid
    | backticks => exact ⟨_, _, rfl, rfl⟩
    | guillemets => exact ⟨_, _, rfl, rfl⟩
    | quotes quotes => exact ⟨_, _, rfl, isBlank_quote quotes⟩
    | bare bare => exact bare.toWord.startsSolid
  · exact (Scan.word_keyword word).startsSolid

theorem Unending.startsSolid {kind : Delimited} {rest : List Char} (unending : Unending kind rest) :
    StartsSolid rest := by
  cases unending with
  | backtick => exact ⟨_, _, rfl, rfl⟩
  | guillemet => exact ⟨_, _, rfl, rfl⟩
  | quote quotes => exact ⟨_, _, rfl, isBlank_quote quotes⟩

namespace ParseError
variable {source label : String} {dialect : Dialect} {error : ParseError} {place : Position}

theorem RefersTo.startsSolid {start : Nat} {piece : List Char} (refers : error.RefersTo source start piece) :
    StartsSolid piece := by
  cases refers with
  | token _ _ written _ => exact written.startsSolid
  | delimiter _ _ unending => exact unending.startsSolid

theorem RefersTo.between {start : Nat} {piece : List Char} (refers : error.RefersTo source start piece) :
    ∃ stop, Between source start stop piece := by
  cases refers with
  | token _ between _ _ => exact ⟨_, between⟩
  | delimiter _ between _ => exact ⟨_, between⟩

/-- The place of an error is that of what it refers to. -/
theorem refersTo_of_parse (failed : parse source label dialect = .error error)
    (placed : error.position? = some place) :
    ∃ start piece, error.RefersTo source start piece ∧ place = (LineMap.ofText source).position start := by
  have covers : (Scan.ofText source).Covers source 0 :=
    @Scan.Tiles.covers source [] _ _ _ (Scan.tiles_ofChars 0 source.toList) rfl rfl
  cases error with
  | grammar error =>
    cases placed
    obtain ⟨token, member, named⟩ := (parse_names failed).named
    obtain ⟨lexeme, inside, same⟩ := List.mem_map.mp member
    obtain ⟨rfl, here⟩ := Prod.mk.inj same
    obtain ⟨piece, between, written⟩ := covers.written lexeme inside
    exact ⟨lexeme.start, piece, .token inside between written named, here.symm⟩
  | scan error =>
    simp only [parse] at failed
    split at failed
    next => cases failed
    next =>
      split at failed
      next unclosed found =>
        cases failed
        cases placed
        obtain ⟨_, rest, _, _, between, unending⟩ := covers.unfinished unclosed found
        exact ⟨unclosed.start, rest, .delimiter found between unending, rfl⟩
      next =>
        split at failed <;> cases failed

end ParseError

/-- The line of a character that is not blank is shown, and the character stands in it at the column. -/
theorem excerpt_shows {source : String} {start stop : Nat} {c : Char} {rest : List Char}
    (between : Between source start stop (c :: rest)) (solid : isBlank c = false) :
    ∃ above head tail below,
      Excerpt.Shows source ((LineMap.ofText source).position start) above (head ++ c :: tail) below ∧
        width head = ((LineMap.ofText source).position start).column := by
  obtain ⟨before, after, rfl, rfl, _⟩ := between
  obtain ⟨front, last, split⟩ : ∃ front last, pieces '\n' before.toList = front ++ [last] :=
    ⟨_, _, (List.dropLast_concat_getLast (pieces_ne_nil before.toList)).symm⟩
  have whole : (before ++ String.ofList (c :: rest) ++ after).toList =
      before.toList ++ c :: (rest ++ after.toList) := by simp
  rw [← width_toList before, LineMap.position_pieces whole split]
  obtain ⟨tail, later, lines⟩ := @terminatedLines_solid _ (rest ++ after.toList) _ _ _ split solid
  obtain ⟨above, below, shows⟩ := @Excerpt.shows_of_lines _ ⟨front.length, width last⟩ _ later (last ++ c :: tail)
    (whole ▸ lines) (List.length_map _)
  exact ⟨above, last, tail, below, shows, rfl⟩

/-- The excerpt for an error marks one line, that of the place, and shows it with its number and its neighbours.
The token or delimiter that the error refers to starts in that line, at the column. -/
theorem parse_excerpt {source label : String} {dialect : Dialect} {error : ParseError} {place : Position}
    (failed : parse source label dialect = .error error) (placed : error.position? = some place) :
    ∃ start c rest above head tail below, error.RefersTo source start (c :: rest) ∧
      place = (LineMap.ofText source).position start ∧
      Excerpt.Shows source place above (head ++ c :: tail) below ∧
      width head = place.column ∧ place.column < width (head ++ c :: tail) := by
  obtain ⟨start, piece, refers, rfl⟩ := ParseError.refersTo_of_parse failed placed
  obtain ⟨c, rest, rfl, solid⟩ := refers.startsSolid
  obtain ⟨stop, between⟩ := refers.between
  obtain ⟨above, head, tail, below, shows, column⟩ := excerpt_shows between solid
  refine ⟨start, c, rest, above, head, tail, below, refers, rfl, shows, column, ?_⟩
  have wide := c.utf8Size_pos
  rw [← column, width_append, width_cons]
  omega

/-- A command without a handler is only found to be so at the next route, and then shown with its neighbours. -/
theorem parse_excerpt_unhandled :
    let source := "ROUTE a\r\n DOES\n\n ROUTE b"
    let error : ParseError := .grammar ⟨.missingHandler, .handler, "DOES", ⟨1, 1⟩⟩
    parse source "m" .strict = .error error ∧
      ∃ start c rest above head tail below, error.RefersTo source start (c :: rest) ∧
        ⟨1, 1⟩ = (LineMap.ofText source).position start ∧
        Excerpt.Shows source ⟨1, 1⟩ above (head ++ c :: tail) below ∧
        width head = 1 ∧ 1 < width (head ++ c :: tail) := by
  intro source error
  have failed : parse source "m" .strict = .error error := by
    have scanned : Scan.ofText source =
        ⟨[⟨.keyword .routeWord, 0, 5⟩, ⟨.string "a", 6, 7⟩, ⟨.keyword .doesWord, 10, 14⟩,
          ⟨.keyword .routeWord, 17, 22⟩, ⟨.string "b", 23, 24⟩], none⟩ := by decide +kernel
    have lines : LineMap.ofText source = ⟨[0, 9, 15, 16]⟩ := by decide +kernel
    simp only [parse, scanned, lines]
    rfl
  exact ⟨failed, parse_excerpt failed rfl⟩

/-- A carriage return at the end of a source, without a line feed behind it, is shown with the last line. -/
theorem parse_excerpt_return :
    ¬ ∀ (source label : String) (dialect : Dialect) (error : ParseError) (place : Position),
      parse source label dialect = .error error → error.position? = some place →
        ∃ line, ((pieces '\n' source.toList).map withoutReturn)[place.line]? = some line ∧
          (pieces '\n' (excerpt source place).toList).filter (">>".toList.isPrefixOf ·) =
            [Excerpt.rowText ">>" (place.line + 1) line] := by
  intro claimed
  have failed : parse "USING\r" "m" .strict =
      .error (.grammar ⟨.usingOutsideDoes, .top, "USING", ⟨0, 0⟩⟩) := by
    have scanned : Scan.ofText "USING\r" = ⟨[⟨.keyword .usingWord, 0, 5⟩], none⟩ := by decide +kernel
    have lines : LineMap.ofText "USING\r" = ⟨[0]⟩ := by decide +kernel
    simp only [parse, scanned, lines]
    rfl
  obtain ⟨line, cut, shown⟩ := claimed _ _ _ _ _ failed rfl
  have taken : ((pieces '\n' "USING\r".toList).map withoutReturn)[0]? = some "USING".toList := by decide +kernel
  obtain rfl := Option.some.inj (taken.symm.trans cut)
  revert shown
  decide +kernel

end RouteDoc
