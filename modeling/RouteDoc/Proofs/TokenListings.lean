import Mathlib.Data.List.Forall2
import RouteDoc.Inspect
import RouteDoc.Proofs.BytePlaces
import RouteDoc.Proofs.QuotedTexts
import RouteDoc.Proofs.SourcesKept

/-! The lines of a listing of tokens. Each token has a row that starts with its place. A keyword and a quoted text stay
on one line, but a literal is shown as it is: each line feed in it cuts its row once more. -/

namespace RouteDoc
open Text

/-! Rows. -/

/-- The characters of a token that are shown as they are. -/
def Token.verbatim : Token → List Char
  | .literal text => text.toList
  | .keyword _ | .string _ => []

theorem Token.count_display (token : Token) : token.display.toList.count '\n' = token.verbatim.count '\n' := by
  cases token with
  | keyword word => cases word <;> decide
  | literal text => simp [display, verbatim]
  | string text => exact List.count_eq_zero.mpr (unbroken_quoted text)

theorem Position.unbroken_display (place : Position) : '\n' ∉ place.display.toList := by
  simp [display, unbroken_digits]

namespace Lexeme

/-- What a listing says of a lexeme of a source: the line and the column of its first byte, both counted from one, a
tab, and the token as it is shown. The line feeds before that byte are counted, and the bytes behind the last of them. -/
def Row (source : String) (lexeme : Lexeme) (row : List Char) : Prop :=
  ∃ start, LineMap.BehindFeed (bytes source) lexeme.start start ∧
    row = (toString (((bytes source).take lexeme.start).count feedByte + 1) ++ ":" ++
      toString (lexeme.start - start + 1) ++ "\t" ++ lexeme.token.display).toList

/-- The row of a lexeme, by the line starts of its source. -/
def row (lineMap : LineMap) (lexeme : Lexeme) : List Char :=
  ((lineMap.position lexeme.start).display ++ "\t" ++ lexeme.token.display).toList

theorem row_ofText (source : String) (lexeme : Lexeme) : lexeme.Row source (lexeme.row (.ofText source)) := by
  obtain ⟨line, start, holds, column⟩ := LineMap.position_ofText source lexeme.start
  refine ⟨start, holds.behindFeed, ?_⟩
  rw [row, Position.display, line, column]

theorem count_row (lineMap : LineMap) (lexeme : Lexeme) :
    (lexeme.row lineMap).count '\n' = lexeme.token.verbatim.count '\n' := by
  have placed := List.count_eq_zero.mpr (lineMap.position lexeme.start).unbroken_display
  rw [row, String.toList_append, String.toList_append, List.count_append, List.count_append, placed,
    Token.count_display]
  simp

theorem unbroken_row {lineMap : LineMap} {lexeme : Lexeme} :
    '\n' ∉ lexeme.row lineMap ↔ '\n' ∉ lexeme.token.verbatim := by
  rw [← List.count_eq_zero, count_row, List.count_eq_zero]

end Lexeme

/-! Listings. The rows, each ended by a line feed, are the text; so the line feeds in literals decide how it is cut. -/

namespace Scan

theorem toList_listing (scan : Scan) (lineMap : LineMap) :
    (scan.listing lineMap).toList = (scan.lexemes.map (Lexeme.row lineMap)).flatMap (· ++ ['\n']) := by
  rw [listing, toList_concat, List.flatMap_map]
  simp only [String.toList_append, Lexeme.row]
  rfl

theorem pieces_listing (scan : Scan) (lineMap : LineMap) : pieces '\n' (scan.listing lineMap).toList =
    (scan.lexemes.map (Lexeme.row lineMap)).flatMap (pieces '\n') ++ [[]] := by
  rw [toList_listing, pieces_ended]

/-- A listing has a line for each token, one more for each line feed in a literal, and the empty one at its end. -/
theorem length_pieces_listing (scan : Scan) (lineMap : LineMap) :
    (pieces '\n' (scan.listing lineMap).toList).length =
      scan.lexemes.length + (scan.lexemes.flatMap (·.token.verbatim)).count '\n' + 1 := by
  rw [pieces_listing, List.length_append, List.length_singleton]
  congr 1
  induction scan.lexemes with
  | nil => rfl
  | cons lexeme lexemes ih =>
    rw [List.map_cons, List.flatMap_cons, List.length_append, length_pieces, Lexeme.count_row, ih, List.length_cons,
      List.flatMap_cons, List.count_append]
    omega

theorem pieces_listing_iff (scan : Scan) (lineMap : LineMap) :
    pieces '\n' (scan.listing lineMap).toList = scan.lexemes.map (Lexeme.row lineMap) ++ [[]] ↔
      ∀ lexeme ∈ scan.lexemes, '\n' ∉ lexeme.token.verbatim := by
  constructor
  · intro same lexeme member
    -- The row is one of the lines, and these hold no line feed.
    have listed : lexeme.row lineMap ∈ pieces '\n' (scan.listing lineMap).toList := by
      rw [same]
      exact List.mem_append_left _ (List.mem_map_of_mem member)
    exact Lexeme.unbroken_row.mp (notMem_of_mem_pieces listed)
  · intro none
    have unbroken : ∀ row ∈ scan.lexemes.map (Lexeme.row lineMap), '\n' ∉ row :=
      List.forall_mem_map.mpr fun lexeme member => Lexeme.unbroken_row.mpr (none lexeme member)
    rw [toList_listing, pieces_rows unbroken]

end Scan

namespace Translator
variable {tree : FileTree} {path : Path} {source : String}

/-- The listing of the tokens of a source without unclosed delimiters. There is one row for each token, in their order.
The rows are cut at the line feeds in literals, so they are the lines of the listing if and only if there are no such
line feeds. -/
theorem inspect_tokens (translator : Translator) (held : tree.readText path = .ok source)
    (closed : (Scan.ofText source).unclosed = none) :
    let lexemes := (Scan.ofText source).lexemes
    ∃ listing rows, translator.inspect tree path tokensName = .ok listing ∧
      List.Forall₂ (Lexeme.Row source) lexemes rows ∧
      pieces '\n' listing.toList = rows.flatMap (pieces '\n') ++ [[]] ∧
      (pieces '\n' listing.toList).length = lexemes.length + (lexemes.flatMap (·.token.verbatim)).count '\n' + 1 ∧
      (pieces '\n' listing.toList = rows ++ [[]] ↔
        ∀ lexeme ∈ lexemes, ∀ text, lexeme.token = .literal text → '\n' ∉ text.toList) := by
  intro lexemes
  have listed : translator.inspect tree path tokensName =
      .ok ((Scan.ofText source).listing (.ofText source)) := by
    rw [inspect, if_pos rfl, listTokens, held]
    simp only [closed]
  refine ⟨_, lexemes.map (Lexeme.row (.ofText source)), listed, ?_, Scan.pieces_listing _ _,
    Scan.length_pieces_listing _ _, ?_⟩
  · rw [List.forall₂_map_right_iff, List.forall₂_same]
    exact fun lexeme _ => lexeme.row_ofText source
  · rw [Scan.pieces_listing_iff]
    refine forall₂_congr fun lexeme _ => ?_
    cases lexeme.token with
    | literal text => simp [Token.verbatim]
    | keyword | string => simp [Token.verbatim]

/-- A string with a line feed and a tab in it stays on its line. -/
theorem inspect_tokens_escaped :
    let source := "DOES\n«h» 'a\n\tb'"
    let tree : FileTree := ⟨[(["t.codl"], .file source.toUTF8 0)], [], 1⟩
    let translator : Translator := ⟨.json, .strict⟩
    let lexemes := [⟨.keyword .doesWord, 0, 4⟩, ⟨.literal "h", 5, 10⟩, ⟨.string "a\n\tb", 11, 17⟩]
    tree.readText ⟨"t.codl"⟩ = .ok source ∧ Scan.ofText source = ⟨lexemes, none⟩ ∧
      ∃ listing rows, translator.inspect tree ⟨"t.codl"⟩ tokensName = .ok listing ∧
        List.Forall₂ (Lexeme.Row source) lexemes rows ∧ pieces '\n' listing.toList = rows ++ [[]] := by
  intro source tree translator lexemes
  have read : tree.readText ⟨"t.codl"⟩ = .ok source := eq_ok_of_toOption (by decide +kernel)
  have scanned : Scan.ofText source = ⟨lexemes, none⟩ := by decide +kernel
  obtain ⟨listing, rows, listed, each, _, _, lines⟩ := translator.inspect_tokens read (by rw [scanned])
  rw [scanned] at each lines
  refine ⟨read, scanned, listing, rows, listed, each, lines.mpr ?_⟩
  simp [lexemes]

/-- A literal with a line feed is listed on two lines. -/
theorem inspect_tokens_cut :
    let tree : FileTree := ⟨[(["t.codl"], .file "`a\nb`".toUTF8 0)], [], 1⟩
    tree.readText ⟨"t.codl"⟩ = .ok "`a\nb`" ∧
      Scan.ofText "`a\nb`" = ⟨[⟨.literal "a\nb", 0, 5⟩], none⟩ ∧
      ∀ translator : Translator, translator.inspect tree ⟨"t.codl"⟩ tokensName = .ok "1:1\t«a\nb»\n" ∧
        pieces '\n' "1:1\t«a\nb»\n".toList = ["1:1\t«a".toList, "b»".toList, []] := by
  intro tree
  have read : tree.readText ⟨"t.codl"⟩ = .ok "`a\nb`" := eq_ok_of_toOption (by decide +kernel)
  have scanned : Scan.ofText "`a\nb`" = ⟨[⟨.literal "a\nb", 0, 5⟩], none⟩ := by decide +kernel
  refine ⟨read, scanned, fun translator => ⟨?_, by decide⟩⟩
  rw [inspect, if_pos rfl, listTokens, read]
  simp only [scanned]
  rfl

end Translator

end RouteDoc
