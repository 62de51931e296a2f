import RouteDoc.Proofs.Reading

/-! A scan accounts for every byte of its source: the lexemes and the gaps between them stand one
after another, and only an opening delimiter without an end leaves something unread. -/

namespace RouteDoc
open Text Spelling

/-- The characters of a source between two bytes; a character starts at each of the two, or the
source ends there. -/
def Between (source : String) (start stop : Nat) (piece : List Char) : Prop :=
  ∃ before after : String, source = before ++ String.ofList piece ++ after ∧
    before.utf8ByteSize = start ∧ (before ++ String.ofList piece).utf8ByteSize = stop

theorem Written.not_nil {token : Token} {piece : List Char} (written : Written token piece) : piece ≠ [] := by
  obtain ⟨_, spells⟩ | ⟨word, _, rfl⟩ := written
  · cases spells with
    | keyword word => exact (Scan.word_keyword word).notEmpty
    | bare bare => exact bare.notEmpty
    | _ => exact List.cons_ne_nil _ _
  · exact (Scan.word_keyword word).notEmpty

namespace Scan

/-- The places of the gaps before lexemes, the first of which starts at `offset`. -/
def seams (offset : Nat) : List Lexeme → List (Nat × Nat)
  | [] => []
  | lexeme :: rest => (offset, lexeme.start) :: seams lexeme.stop rest

/-- The byte after the last lexeme. -/
def lastStop (offset : Nat) : List Lexeme → Nat
  | [] => offset
  | lexeme :: rest => lastStop lexeme.stop rest

/-- A scan of the source from byte `offset` on that leaves nothing out. -/
structure Covers (source : String) (offset : Nat) (scan : Scan) : Prop where
  inOrder : scan.lexemes.Pairwise fun earlier later => earlier.stop ≤ later.start
  notEmpty : ∀ lexeme ∈ scan.lexemes, offset ≤ lexeme.start ∧ lexeme.start < lexeme.stop
  written : ∀ lexeme ∈ scan.lexemes,
    ∃ piece, Between source lexeme.start lexeme.stop piece ∧ Written lexeme.token piece
  skipped : ∀ seam ∈ seams offset scan.lexemes, ∃ gap, Between source seam.1 seam.2 gap ∧ Gap gap
  finished : scan.unclosed = none →
    ∃ gap, Between source (lastStop offset scan.lexemes) source.utf8ByteSize gap ∧ LastGap gap
  unfinished : ∀ unclosed, scan.unclosed = some unclosed → ∃ gap rest,
    Between source (lastStop offset scan.lexemes) unclosed.start gap ∧ Gap gap ∧
      Between source unclosed.start source.utf8ByteSize rest ∧ Unending unclosed.kind rest

/-- The same for the characters from byte `offset` on, piece by piece. -/
inductive Tiles : Nat → List Char → Scan → Prop
  | finished {offset : Nat} {gap : List Char} : LastGap gap → Tiles offset gap ⟨[], none⟩
  | unfinished {offset : Nat} {gap rest : List Char} {kind : Delimited} :
      Gap gap → Unending kind rest → Tiles offset (gap ++ rest) ⟨[], some ⟨kind, offset + width gap⟩⟩
  | lexeme {offset : Nat} {gap piece rest : List Char} {token : Token} {scan : Scan} :
      Gap gap → Written token piece → Tiles (offset + width gap + width piece) rest scan →
      Tiles offset (gap ++ piece ++ rest)
        ⟨⟨token, offset + width gap, offset + width gap + width piece⟩ :: scan.lexemes, scan.unclosed⟩

theorem Tiles.prepend {offset : Nat} {gap cs : List Char} {scan : Scan} (skipped : Gap gap)
    (tiles : Tiles (offset + width gap) cs scan) : Tiles offset (gap ++ cs) scan := by
  cases tiles with
  | finished last => exact .finished (last.prepend skipped)
  | unfinished more unending =>
    have all := @Tiles.unfinished offset _ _ _ (skipped.append more) unending
    simpa [Nat.add_assoc] using all
  | lexeme more written rest =>
    have all := @Tiles.lexeme offset _ _ _ _ _ (skipped.append more) written (by simpa [Nat.add_assoc] using rest)
    simpa [Nat.add_assoc] using all

theorem tiles_ofChars (offset : Nat) (cs : List Char) : Tiles offset cs (ofChars offset cs) := by
  induction offset, cs using Scan.induction with
  | nil offset =>
    rw [ofChars_nil]
    exact .finished (.closed .nil)
  | blank offset c cs white ih =>
    rw [ofChars_blank offset cs white]
    exact .prepend (.blank white .nil) ih
  | comment offset body rest inside ih =>
    rw [ofChars_comment offset rest inside]
    have all := @Tiles.prepend offset _ _ _ (.comment inside .nil) ih
    simpa using all
  | openComment offset body inside =>
    rw [ofChars_openComment offset inside]
    exact .finished (.open_ .nil inside)
  | token offset c cs token used rest _ _ reading whole written ih =>
    rw [ofChars_of_token reading, whole]
    simpa using Tiles.lexeme .nil written ih
  | unclosed offset c cs kind reading unending =>
    rw [ofChars_of_unclosed reading]
    simpa using @Tiles.unfinished offset _ _ _ .nil unending

end Scan

/-! From the pieces to the bytes of the source. -/

theorem between_of_toList {source : String} {before piece after : List Char}
    (whole : source.toList = before ++ (piece ++ after)) :
    Between source (width before) (width before + width piece) piece := by
  refine ⟨String.ofList before, String.ofList after, ?_, utf8ByteSize_ofList before, ?_⟩
  · rw [← String.toList_inj, whole]
    simp
  · rw [String.utf8ByteSize_append, utf8ByteSize_ofList, utf8ByteSize_ofList]

theorem width_pos {cs : List Char} (present : cs ≠ []) : 0 < width cs := by
  cases cs with
  | nil => exact absurd rfl present
  | cons c cs =>
    have := c.utf8Size_pos
    simp only [width_cons]
    omega

namespace Scan

theorem Tiles.covers {source : String} {before cs : List Char} {offset : Nat} {scan : Scan}
    (tiles : Tiles offset cs scan) (whole : source.toList = before ++ cs) (here : width before = offset) :
    Covers source offset scan := by
  have size : source.utf8ByteSize = width before + width cs := by
    rw [← width_append, ← whole, width_toList]
  induction tiles generalizing before with
  | @finished offset gap last =>
    subst here
    have all : Between source (width before) (width before + width gap) gap :=
      @between_of_toList source before gap [] (by simpa using whole)
    exact ⟨.nil, nofun, nofun, nofun, fun _ => ⟨gap, size ▸ all, last⟩, nofun⟩
  | @unfinished offset gap rest kind skipped unending =>
    subst here
    have first : Between source (width before) (width before + width gap) gap := between_of_toList whole
    have last : Between source (width before + width gap) source.utf8ByteSize rest := by
      have piece := @between_of_toList source (before ++ gap) rest [] (by simpa using whole)
      simpa [size, Nat.add_assoc] using piece
    refine ⟨.nil, nofun, nofun, nofun, nofun, ?_⟩
    rintro _ ⟨rfl⟩
    exact ⟨gap, rest, first, skipped, last, unending⟩
  | @lexeme offset gap piece rest token scan skipped written tiles ih =>
    subst here
    have first : Between source (width before) (width before + width gap) gap :=
      between_of_toList (by simpa using whole)
    have spelled : Between source (width before + width gap) (width before + width gap + width piece) piece := by
      have piece := @between_of_toList source (before ++ gap) piece rest (by simpa using whole)
      simpa using piece
    have later := @ih (before ++ gap ++ piece) (by simpa using whole) (by simp [Nat.add_assoc])
      (by simpa [Nat.add_assoc] using size)
    have taken := width_pos written.not_nil
    refine ⟨List.pairwise_cons.mpr ⟨fun next member => (later.notEmpty next member).1, later.inOrder⟩,
      ?_, ?_, ?_, later.finished, later.unfinished⟩
    · intro lexeme member
      obtain rfl | member := List.mem_cons.mp member
      · exact ⟨by simp, by simp; omega⟩
      · have := later.notEmpty lexeme member
        omega
    · intro lexeme member
      obtain rfl | member := List.mem_cons.mp member
      · exact ⟨piece, spelled, written⟩
      · exact later.written lexeme member
    · intro seam member
      obtain rfl | member := List.mem_cons.mp member
      · exact ⟨gap, first, skipped⟩
      · exact later.skipped seam member

end Scan

/-- The lexemes of a source and the gaps around them are all of it, up to an opening delimiter that
is never closed. Such a delimiter, and nothing else, makes the source fail, at its place. -/
theorem ofText_covers (source : String) :
    (Scan.ofText source).Covers source 0 ∧
      ∀ error, tokenize source = .error error ↔
        ∃ unclosed, (Scan.ofText source).unclosed = some unclosed ∧
          error = .unclosed unclosed.kind ((LineMap.ofText source).position unclosed.start) := by
  constructor
  · exact @Scan.Tiles.covers source [] _ _ _ (Scan.tiles_ofChars 0 source.toList) rfl rfl
  · intro error
    cases failed : (Scan.ofText source).unclosed with
    | none => simp [tokenize, failed]
    | some unclosed => simp [tokenize, failed, Unclosed.error, eq_comm]

end RouteDoc
