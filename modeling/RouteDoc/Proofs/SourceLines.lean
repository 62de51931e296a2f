import RouteDoc.Position.Excerpt
import RouteDoc.Proofs.TextPieces
import RouteDoc.Text.Blank

/-! Places and lines count alike. A place is found from the line feeds before its byte, and its line is the piece
between line feeds that the byte stands in. A character that is not blank is neither a line feed nor a carriage
return, so nothing that is taken off the ends of lines concerns it. -/

namespace RouteDoc
open Text

namespace LineMap

theorem lt_of_mem_laterStarts {offset start : Nat} {cs : List Char} (member : start ∈ laterStarts offset cs) :
    offset < start := by
  induction cs generalizing offset with
  | nil => cases member
  | cons c cs ih =>
    rw [laterStarts] at member
    split at member
    next =>
      obtain rfl | member := List.mem_cons.mp member
      · exact Nat.lt_add_one offset
      · have := ih member
        omega
    next =>
      have := ih member
      omega

/-- An offset stays on its line if all others start behind it. -/
theorem placeFrom_last {offset : Nat} {starts : List Nat} (behind : ∀ next ∈ starts, offset < next)
    (line start : Nat) : placeFrom offset line start starts = ⟨line, offset - start⟩ := by
  cases starts with
  | nil => rfl
  | cons next later => rw [placeFrom, if_neg (Nat.not_le.mpr (behind next List.mem_cons_self))]

/-- The place of the byte behind `before`, of which `begun` stands on a line that starts at `start`. -/
theorem placeFrom_pieces {begun before last : List Char} {front : List (List Char)} (unbroken : '\n' ∉ begun)
    (split : pieces '\n' (begun ++ before) = front ++ [last]) (line start : Nat) (after : List Char) :
    placeFrom (start + width begun + width before) line start
        (laterStarts (start + width begun) (before ++ after)) =
      ⟨line + front.length, width last⟩ := by
  induction before generalizing begun front line start with
  | nil =>
    rw [List.append_nil, pieces_of_notMem unbroken] at split
    obtain ⟨rfl, same⟩ := List.append_inj' (show [] ++ [begun] = front ++ [last] from split) rfl
    obtain rfl := List.singleton_inj.mp same
    rw [placeFrom_last fun next member => by simpa using lt_of_mem_laterStarts member]
    simp
  | cons c before ih =>
    by_cases feed : c = '\n'
    · subst feed
      have one : Char.utf8Size '\n' = 1 := by decide
      rw [pieces_append_mark, pieces_of_notMem unbroken] at split
      cases front with
      | nil => exact absurd (List.cons.inj split).2 (pieces_ne_nil before)
      | cons first front =>
        have rest := (List.cons.inj split).2
        have moved := @ih [] front List.not_mem_nil rest (line + 1) (start + width begun + 1)
        rw [List.cons_append, laterStarts, if_pos rfl, placeFrom, if_pos (by simp [one]), width_cons, one]
        rw [List.length_cons]
        simpa [Nat.add_assoc, Nat.add_comm 1] using moved
    · have unbroken : '\n' ∉ begun ++ [c] := by simp [unbroken, Ne.symm feed]
      have moved := @ih (begun ++ [c]) front unbroken (by simpa using split) line start
      rw [List.cons_append, laterStarts, if_neg feed]
      simpa [Nat.add_assoc] using moved

/-- The line of a byte is the number of pieces before the one it stands in, and its column is what stands of
that piece before it. -/
theorem position_pieces {source : String} {before after last : List Char} {front : List (List Char)}
    (whole : source.toList = before ++ after) (split : pieces '\n' before = front ++ [last]) :
    (ofText source).position (width before) = ⟨front.length, width last⟩ := by
  have found := @placeFrom_pieces [] before last front List.not_mem_nil split 0 0 after
  simpa [position, ofText, whole] using found

end LineMap

namespace Text

theorem withoutReturn_append (head : List Char) {tail : List Char} (filled : tail ≠ []) :
    withoutReturn (head ++ tail) = head ++ withoutReturn tail := by
  have last : (head ++ tail).getLast? = tail.getLast? := by
    rw [List.getLast?_append, List.getLast?_eq_some_getLast filled, Option.some_or]
  unfold withoutReturn
  rw [last, List.dropLast_append_of_ne_nil filled]
  split <;> rfl

/-- The line of a character that is not blank holds what stands before it on that line, and the character. -/
theorem terminatedLines_solid {before after last : List Char} {c : Char} {front : List (List Char)}
    (split : pieces '\n' before = front ++ [last]) (solid : isBlank c = false) :
    ∃ tail rest, terminatedLines (before ++ c :: after) = front.map withoutReturn ++ (last ++ c :: tail) :: rest := by
  have feed : c ≠ '\n' := by
    rintro rfl
    cases solid
  have carriage : c ≠ '\r' := by
    rintro rfl
    cases solid
  obtain ⟨first, others, splits⟩ := List.exists_cons_of_ne_nil (@pieces_ne_nil '\n' after)
  have whole := pieces_append split (pieces_cons feed splits)
  unfold terminatedLines
  rw [whole]
  cases others with
  | nil => exact ⟨first, [], by simp⟩
  | cons second others =>
    rw [List.dropLast_append_of_ne_nil (List.cons_ne_nil _ _), List.dropLast_cons_cons, List.map_append,
      List.map_cons, withoutReturn_append last (List.cons_ne_nil c first), withoutReturn_cons (.inr carriage),
      List.append_assoc, List.cons_append]
    exact ⟨withoutReturn first, _, rfl⟩

theorem unbroken_digits (number : Nat) : '\n' ∉ Nat.toDigits 10 number := by
  intro member
  cases Nat.isDigit_of_mem_toDigits (by decide) (by decide) member

end Text

/-! Rows of an excerpt. -/

namespace Excerpt

/-- A row without its line feed: a mark, the number of the line aligned to three digits, and the line. -/
def rowText (mark : String) (number : Nat) (line : List Char) : List Char :=
  (mark ++ " " ++ alignedRight 3 (toString number) ++ " | ").toList ++ line

/-- Rows without a mark, for lines whose numbers start with the given one. -/
def plainRows (number : Nat) (lines : List (List Char)) : List (List Char) :=
  (lines.zipIdx number).map fun (line, number) => rowText "  " number line

theorem unbroken_rowText {mark : String} (unbroken : '\n' ∉ mark.toList) (number : Nat) {line : List Char}
    (inside : '\n' ∉ line) : '\n' ∉ rowText mark number line := by
  simp [rowText, alignedRight, unbroken, unbroken_digits, inside]

theorem row_eq (marked number : Nat) (line : List Char) :
    (row marked number line).toList =
      rowText (if number = marked then ">>" else "  ") (number + 1) line ++ ['\n'] := by
  simp [row, rowText]

/-- What an excerpt shows of the lines of a source around the line of a place: up to two lines before that line
and up to two after it, all of them with their numbers, and a mark in front of that line alone. -/
structure Shows (source : String) (place : Position) (above : List (List Char)) (line : List Char)
    (below : List (List Char)) : Prop where
  before : above.length = min 2 place.line
  lines : ∃ earlier later, terminatedLines source.toList = earlier ++ above ++ line :: (below ++ later) ∧
    (earlier ++ above).length = place.line ∧ below.length = min 2 (below ++ later).length
  rows : pieces '\n' (excerpt source place).toList =
    plainRows (place.line + 1 - above.length) above ++
      rowText ">>" (place.line + 1) line :: (plainRows (place.line + 2) below ++ [[]])
  marked : (pieces '\n' (excerpt source place).toList).filter (">>".toList.isPrefixOf ·) =
    [rowText ">>" (place.line + 1) line]

theorem unbroken_terminatedLines {cs line : List Char} (member : line ∈ terminatedLines cs) : '\n' ∉ line := by
  have piece {line : List Char} (inside : line ∈ pieces '\n' cs) : '\n' ∉ withoutReturn line := by
    unfold withoutReturn
    split
    · exact fun member => notMem_of_mem_pieces inside (List.dropLast_subset _ member)
    · exact notMem_of_mem_pieces inside
  rcases List.mem_append.mp member with ended | last
  · obtain ⟨whole, inside, rfl⟩ := List.mem_map.mp ended
    exact piece (List.dropLast_subset _ inside)
  · rw [List.mem_filter, Option.mem_toList] at last
    exact notMem_of_mem_pieces (List.mem_of_getLast? last.1)

/-- The numbered lines that an excerpt is made of. -/
theorem shown_eq {earlier above below later : List (List Char)} {line : List Char} {count : Nat}
    (before : above.length = min 2 (earlier ++ above).length) (after : below.length = min 2 (below ++ later).length)
    (here : (earlier ++ above).length = count) :
    ((((earlier ++ above ++ line :: (below ++ later)).zipIdx).drop (count - margin)).take
        (count + margin + 1 - (count - margin))) =
      above.zipIdx (count - above.length) ++ (line, count) :: below.zipIdx (count + 1) := by
  rw [List.length_append] at before here
  rw [List.length_append] at after
  have start : count - margin = earlier.zipIdx.length := by
    rw [List.length_zipIdx, margin]
    omega
  have number : count - above.length = 0 + earlier.length := by omega
  have taken : (above.zipIdx (0 + earlier.length) ++ (line, count) :: below.zipIdx (count + 1)).length ≤
      count + margin + 1 - (count - margin) := by
    simp only [List.length_append, List.length_cons, List.length_zipIdx, margin]
    omega
  have split : (earlier ++ above ++ line :: (below ++ later)).zipIdx = earlier.zipIdx ++
      ((above.zipIdx (0 + earlier.length) ++ (line, count) :: below.zipIdx (count + 1)) ++
        later.zipIdx (count + 1 + below.length)) := by
    have numbered : 0 + (earlier ++ above).length = count := by rw [List.length_append]; omega
    rw [List.zipIdx_append, List.zipIdx_append, List.zipIdx_cons, List.zipIdx_append, numbered, List.append_assoc,
      List.append_assoc, List.cons_append]
  rw [split, start, List.drop_left, number, ← start, List.take_append, List.take_of_length_le taken]
  -- Either there are two lines below, or there are none behind those that are there.
  have none : List.take (count + margin + 1 - (count - margin) -
      (above.zipIdx (0 + earlier.length) ++ (line, count) :: below.zipIdx (count + 1)).length)
        (later.zipIdx (count + 1 + below.length)) = [] := by
    rw [List.take_eq_nil_iff]
    by_cases empty : later = []
    · exact .inr (by simp [empty])
    · left
      have more := List.length_pos_iff.mpr empty
      simp only [List.length_append, List.length_cons, List.length_zipIdx, margin]
      omega
  rw [none, List.append_nil]

theorem map_zipIdx_unmarked {marked number : Nat} {lines : List (List Char)}
    (apart : marked < number ∨ number + lines.length ≤ marked) :
    (lines.zipIdx number).map (fun shown => rowText (if shown.2 = marked then ">>" else "  ") (shown.2 + 1) shown.1) =
      plainRows (number + 1) lines := by
  rw [plainRows, List.zipIdx_succ, List.map_map]
  apply List.map_congr_left
  rintro ⟨line, place⟩ member
  have low := List.le_snd_of_mem_zipIdx member
  have high := List.snd_lt_add_of_mem_zipIdx member
  have other : place ≠ marked := by omega
  simp [other]

theorem unbroken_plainRows {number : Nat} {lines : List (List Char)} (unbroken : ∀ line ∈ lines, '\n' ∉ line) :
    ∀ row ∈ plainRows number lines, '\n' ∉ row := by
  intro row member
  obtain ⟨⟨line, place⟩, shown, rfl⟩ := List.mem_map.mp member
  exact unbroken_rowText (by decide) place (unbroken line (List.fst_mem_of_mem_zipIdx shown))

theorem filter_plainRows (number : Nat) (lines : List (List Char)) :
    (plainRows number lines).filter (">>".toList.isPrefixOf ·) = [] := by
  rw [List.filter_eq_nil_iff]
  intro row member
  obtain ⟨⟨line, place⟩, _, rfl⟩ := List.mem_map.mp member
  simp [rowText]

/-- The rows of an excerpt: those of the lines above, that of the line itself, and those of the lines below. -/
theorem pieces_excerpt {source : String} {place : Position} {earlier above below later : List (List Char)}
    {line : List Char} (whole : terminatedLines source.toList = earlier ++ above ++ line :: (below ++ later))
    (here : (earlier ++ above).length = place.line) (before : above.length = min 2 (earlier ++ above).length)
    (after : below.length = min 2 (below ++ later).length) :
    pieces '\n' (excerpt source place).toList =
      plainRows (place.line + 1 - above.length) above ++
        rowText ">>" (place.line + 1) line :: (plainRows (place.line + 2) below ++ [[]]) := by
  have texts : (excerpt source place).toList = (plainRows (place.line + 1 - above.length) above ++
      rowText ">>" (place.line + 1) line :: plainRows (place.line + 2) below).flatMap (· ++ ['\n']) := by
    have first : place.line - above.length + 1 = place.line + 1 - above.length := by
      rw [List.length_append] at here
      omega
    have earlierRows := @map_zipIdx_unmarked place.line (place.line - above.length) above (.inr (by omega))
    have laterRows := @map_zipIdx_unmarked place.line (place.line + 1) below (.inl (by omega))
    rw [first] at earlierRows
    rw [← earlierRows, ← laterRows]
    simp only [excerpt, lines_eq_terminatedLines, whole, shown_eq before after here]
    simp [concat, row_eq, List.flatMap_map]
  have unbroken : ∀ shown ∈ earlier ++ above ++ line :: (below ++ later), '\n' ∉ shown := by
    intro shown member
    exact unbroken_terminatedLines (whole ▸ member)
  have each : ∀ row ∈ plainRows (place.line + 1 - above.length) above ++
      rowText ">>" (place.line + 1) line :: plainRows (place.line + 2) below, '\n' ∉ row := by
    simp only [List.forall_mem_append, List.forall_mem_cons] at unbroken ⊢
    exact ⟨unbroken_plainRows unbroken.1.2, unbroken_rowText (by decide) _ unbroken.2.1,
      unbroken_plainRows unbroken.2.2.1⟩
  rw [texts, pieces_rows each, List.append_assoc, List.cons_append]

/-- Every line of a source is shown with its neighbours. -/
theorem shows_of_lines {source : String} {place : Position} {passed rest : List (List Char)} {line : List Char}
    (whole : terminatedLines source.toList = passed ++ line :: rest) (here : passed.length = place.line) :
    ∃ above below, Shows source place above line below := by
  obtain ⟨earlier, above, rfl, before⟩ : ∃ earlier above, passed = earlier ++ above ∧
      above.length = min 2 (earlier ++ above).length :=
    ⟨passed.take (passed.length - 2), passed.drop (passed.length - 2), (List.take_append_drop ..).symm, by
      rw [List.take_append_drop, List.length_drop]
      omega⟩
  obtain ⟨below, later, rfl, after⟩ : ∃ below later, rest = below ++ later ∧
      below.length = min 2 (below ++ later).length :=
    ⟨rest.take 2, rest.drop 2, (List.take_append_drop ..).symm, by
      rw [List.take_append_drop, List.length_take]⟩
  have rows := pieces_excerpt whole here before after
  refine ⟨above, below, ?_, ⟨earlier, later, whole, here, after⟩, rows, ?_⟩
  · rw [before, here]
  · rw [rows, List.filter_append, filter_plainRows, List.filter_cons_of_pos (by simp [rowText]), List.filter_append,
      filter_plainRows]
    rfl

end Excerpt

end RouteDoc
