import RouteDoc.Text.Lines
import RouteDoc.Text.Split

/-! The pieces between the marks of a text, and the lines of a text in terms of them: a line is a piece between
line feeds, without the carriage return directly before its line feed. -/

namespace RouteDoc.Text
variable {mark : Char}

theorem pieces_ne_nil (cs : List Char) : pieces mark cs ≠ [] := by
  fun_cases pieces mark cs <;> simp_all

theorem pieces_cons {c : Char} (other : c ≠ mark) {cs first : List Char} {others : List (List Char)}
    (same : pieces mark cs = first :: others) : pieces mark (c :: cs) = (c :: first) :: others := by
  rw [pieces, if_neg other, same]

theorem pieces_append_mark (mark : Char) (before after : List Char) :
    pieces mark (before ++ mark :: after) = pieces mark before ++ pieces mark after := by
  induction before with
  | nil => simp [pieces]
  | cons c before ih =>
    rw [List.cons_append, pieces, pieces, ih]
    split
    · rfl
    · obtain ⟨first, others, same⟩ := List.exists_cons_of_ne_nil (@pieces_ne_nil mark before)
      simp [same]

theorem pieces_of_notMem {cs : List Char} (absent : mark ∉ cs) : pieces mark cs = [cs] := by
  induction cs with
  | nil => rfl
  | cons c cs ih =>
    obtain ⟨other, others⟩ := List.ne_and_not_mem_of_not_mem_cons absent
    rw [pieces, if_neg other.symm, ih others]

theorem notMem_of_mem_pieces {cs piece : List Char} (member : piece ∈ pieces mark cs) : mark ∉ piece := by
  fun_induction pieces mark cs generalizing piece with
  | case1 =>
    rw [List.mem_singleton.mp member]
    exact List.not_mem_nil
  | case2 rest ih =>
    rcases List.mem_cons.mp member with rfl | member
    · exact List.not_mem_nil
    · exact ih member
  | case3 c rest other none ih =>
    rw [List.mem_singleton.mp member]
    simpa using Ne.symm other
  | case4 c rest other first others same ih =>
    rw [same] at ih
    rcases List.mem_cons.mp member with rfl | member
    · exact List.not_mem_cons_of_ne_of_not_mem (Ne.symm other) (ih List.mem_cons_self)
    · exact ih (List.mem_cons_of_mem _ member)

/-- Where two texts meet, the last piece of the one and the first piece of the other are one piece. -/
theorem pieces_append {cs more last first : List Char} {front others : List (List Char)}
    (split : pieces mark cs = front ++ [last]) (splits : pieces mark more = first :: others) :
    pieces mark (cs ++ more) = front ++ (last ++ first) :: others := by
  induction cs generalizing front last with
  | nil =>
    cases front with
    | nil =>
      obtain rfl := List.singleton_inj.mp split
      exact splits
    | cons => simp [pieces] at split
  | cons c cs ih =>
    by_cases same : c = mark
    · subst same
      rw [pieces, if_pos rfl] at split
      rw [List.cons_append, pieces, if_pos rfl]
      cases front with
      | nil => exact absurd (List.cons.inj split).2 (pieces_ne_nil cs)
      | cons empty front =>
        obtain ⟨none, rest⟩ := List.cons.inj split
        rw [ih rest, ← none, List.cons_append]
    · obtain ⟨head, tail, inner⟩ := List.exists_cons_of_ne_nil (@pieces_ne_nil mark cs)
      rw [pieces_cons same inner] at split
      cases front with
      | nil =>
        obtain ⟨rfl, rfl⟩ := List.cons.inj split
        exact pieces_cons same (@ih head [] inner)
      | cons piece front =>
        obtain ⟨rfl, rfl⟩ := List.cons.inj split
        exact pieces_cons same (@ih last (head :: front) inner)

theorem mark_cons_eq_flatMap (mark : Char) (cs : List Char) : mark :: cs = (pieces mark cs).flatMap (mark :: ·) := by
  induction cs with
  | nil => rfl
  | cons c cs ih =>
    by_cases same : c = mark
    · rw [pieces, if_pos same, List.flatMap_cons, ← ih, same]
      rfl
    · obtain ⟨first, others, cut⟩ := List.exists_cons_of_ne_nil (@pieces_ne_nil mark cs)
      rw [cut, List.flatMap_cons, List.cons_append] at ih
      rw [pieces_cons same cut, List.flatMap_cons, (List.cons.inj ih).2]
      rfl

/-- There is one piece more than there are marks. -/
theorem length_pieces (mark : Char) (cs : List Char) : (pieces mark cs).length = cs.count mark + 1 := by
  induction cs with
  | nil => rfl
  | cons c cs ih =>
    by_cases same : c = mark
    · rw [pieces, if_pos same, List.length_cons, ih, same, List.count_cons_self]
    · obtain ⟨first, others, cut⟩ := List.exists_cons_of_ne_nil (@pieces_ne_nil mark cs)
      rw [pieces_cons same cut, List.count_cons_of_ne same, ← ih, cut, List.length_cons, List.length_cons]

/-- Rows that are each ended by a line feed are cut one by one, and nothing follows the last one. -/
theorem pieces_ended (rows : List (List Char)) :
    pieces '\n' (rows.flatMap (· ++ ['\n'])) = rows.flatMap (pieces '\n') ++ [[]] := by
  induction rows with
  | nil => rfl
  | cons row rows ih =>
    rw [List.flatMap_cons, List.append_assoc, List.singleton_append, pieces_append_mark, ih, List.flatMap_cons,
      List.append_assoc]

theorem flatMap_pieces_of_notMem {rows : List (List Char)} (absent : ∀ row ∈ rows, mark ∉ row) :
    rows.flatMap (pieces mark) = rows := by
  induction rows with
  | nil => rfl
  | cons row rows ih =>
    obtain ⟨first, others⟩ := List.forall_mem_cons.mp absent
    rw [List.flatMap_cons, pieces_of_notMem first, ih others, List.singleton_append]

/-- Rows without line feeds that are each ended by one are the pieces, and nothing follows the last one. -/
theorem pieces_rows {rows : List (List Char)} (unbroken : ∀ row ∈ rows, '\n' ∉ row) :
    pieces '\n' (rows.flatMap (· ++ ['\n'])) = rows ++ [[]] := by
  rw [pieces_ended, flatMap_pieces_of_notMem unbroken]

/-- A line without the carriage return at its end. -/
def withoutReturn (line : List Char) : List Char := if line.getLast? = some '\r' then line.dropLast else line

/-- What stands between the line feeds of a text, without the carriage return before a line feed. What stands
after the last line feed is a line as it is, unless it is empty. -/
def terminatedLines (cs : List Char) : List (List Char) :=
  (pieces '\n' cs).dropLast.map withoutReturn ++ (pieces '\n' cs).getLast?.toList.filter (· ≠ [])

theorem withoutReturn_cons {c : Char} {line : List Char} (kept : line ≠ [] ∨ c ≠ '\r') :
    withoutReturn (c :: line) = c :: withoutReturn line := by
  unfold withoutReturn
  cases line with
  | nil => simp [kept.resolve_left (absurd rfl)]
  | cons d line =>
    rw [List.getLast?_cons_cons, List.dropLast_cons_cons]
    split <;> rfl

theorem terminatedLines_feed (line rest : List Char) (unbroken : '\n' ∉ line) :
    terminatedLines (line ++ '\n' :: rest) = withoutReturn line :: terminatedLines rest := by
  have filled := @pieces_ne_nil '\n' rest
  unfold terminatedLines
  rw [pieces_append_mark, pieces_of_notMem unbroken, List.singleton_append, List.dropLast_cons_of_ne_nil filled,
    List.map_cons, List.cons_append, List.getLast?_cons_of_ne_nil filled]

/-- A character that ends no line goes in front of the first line. -/
theorem terminatedLines_cons {c : Char} {rest : List Char} (other : c ≠ '\n')
    (lone : ∀ more, c = '\r' → rest ≠ '\n' :: more) :
    terminatedLines (c :: rest) = (c :: (terminatedLines rest).headD []) :: (terminatedLines rest).tail := by
  obtain ⟨first, others, same⟩ := List.exists_cons_of_ne_nil (@pieces_ne_nil '\n' rest)
  unfold terminatedLines
  rw [pieces_cons other same, same]
  cases others with
  | nil =>
    by_cases empty : first = []
    · simp [empty]
    · simp [empty]
  | cons second others =>
    have kept : first ≠ [] ∨ c ≠ '\r' := by
      by_cases starts : first = []
      · right
        intro carriage
        cases rest with
        | nil => cases same
        | cons d rest =>
          by_cases feed : d = '\n'
          · exact lone rest carriage (by rw [feed])
          · rw [pieces, if_neg feed] at same
            split at same <;> simp [starts] at same
      · exact .inl starts
    simp [withoutReturn_cons kept]

theorem lines_eq_terminatedLines (cs : List Char) : lines cs = terminatedLines cs := by
  fun_induction lines cs with
  | case1 => rfl
  | case2 rest ih => exact (congrArg (List.cons []) ih).trans (terminatedLines_feed ['\r'] rest (by decide)).symm
  | case3 rest _ ih => exact (congrArg (List.cons []) ih).trans (terminatedLines_feed [] rest (by decide)).symm
  | case4 c rest lone other none ih =>
    rw [terminatedLines_cons other fun more carriage feed => lone more carriage feed, ← ih, none]
    rfl
  | case5 c rest lone other line others same ih =>
    rw [terminatedLines_cons other fun more carriage feed => lone more carriage feed, ← ih, same]
    rfl

end RouteDoc.Text
