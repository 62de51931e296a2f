import RouteDoc.Proofs.Reading

/-! The scan of two texts with a line feed between them. If the first is closed, the line feed ends whatever
the first ends with, so nothing is read across it; the second is read as it is alone, and everything in it
only stands further back. -/

namespace RouteDoc
open Text

def Lexeme.shift (amount : Nat) (lexeme : Lexeme) : Lexeme :=
  ⟨lexeme.token, amount + lexeme.start, amount + lexeme.stop⟩

def Unclosed.shift (amount : Nat) (unclosed : Unclosed) : Unclosed := ⟨unclosed.kind, amount + unclosed.start⟩

/-- A scan of characters that stand so many bytes further back. -/
def Scan.shift (amount : Nat) (scan : Scan) : Scan :=
  ⟨scan.lexemes.map (Lexeme.shift amount), scan.unclosed.map (Unclosed.shift amount)⟩

/-- The place so many lines further down. -/
def Position.below (lines : Nat) (place : Position) : Position := ⟨lines + place.line, place.column⟩

namespace Scan

theorem ofChars_shift (amount offset : Nat) (cs : List Char) :
    ofChars (amount + offset) cs = (ofChars offset cs).shift amount := by
  fun_induction ofChars offset cs with
  | case1 offset => rw [ofChars_nil]; rfl
  | case2 offset c cs used rest reading ih => rw [ofChars_of_gap reading, Nat.add_assoc, ih]
  | case3 offset c cs token used rest reading stop later ih =>
    rw [ofChars_of_token reading, Nat.add_assoc, ih]
    rfl
  | case4 offset c cs kind reading => rw [ofChars_of_unclosed reading]; rfl

/-! A token is read alike with the line feed after it. -/

private theorem takeWhile_before {p : Char → Bool} {mark : Char} (stops : p mark = false) (cs later : List Char) :
    (cs ++ mark :: later).takeWhile p = cs.takeWhile p ∧
      (cs ++ mark :: later).dropWhile p = cs.dropWhile p ++ mark :: later := by
  induction cs with
  | nil => simp [stops]
  | cons c cs ih =>
    by_cases kept : p c = true
    · simp [kept, ih.1, ih.2]
    · simp [kept]

theorem wordToken_before (word rest later : List Char) :
    wordToken word (rest ++ '\n' :: later) = wordToken word rest := by
  have ends : endsKeyword (rest ++ '\n' :: later) = endsKeyword rest := by
    cases rest with
    | nil => rfl
    | cons _ _ => rfl
  simp only [wordToken, ends]

variable {c : Char} {cs used rest : List Char} {token : Token}

theorem startsComment_before (plain : startsComment c cs = false) (later : List Char) :
    startsComment c (cs ++ '\n' :: later) = false := by
  cases cs with
  | nil => simp [startsComment]
  | cons _ _ => exact plain

theorem readLiteral_before {close : Char} (reading : readLiteral c close cs = .token token used rest)
    (later : List Char) :
    readLiteral c close (cs ++ '\n' :: later) = .token token used (rest ++ '\n' :: later) := by
  unfold readLiteral at reading ⊢
  split at reading
  next => cases reading
  next body after found =>
    cases reading
    obtain ⟨rfl, absent⟩ := of_cutAt? found
    rw [List.append_assoc, List.cons_append, cutAt?_append _ absent]

theorem readQuoted_before (proper : c ≠ '\\') (reading : readQuoted c cs = .token token used rest)
    (later : List Char) :
    readQuoted c (cs ++ '\n' :: later) = .token token used (rest ++ '\n' :: later) := by
  unfold readQuoted at reading ⊢
  split at reading
  next => cases reading
  next body after found =>
    cases reading
    obtain ⟨rfl, spelled⟩ := Spelling.Body.of_untilQuote found
    rw [List.append_assoc, List.cons_append, spelled.untilQuote proper]

theorem read_before (solid : isBlank c = false) (plain : startsComment c cs = false)
    (reading : read c cs = .token token used rest) (later : List Char) :
    read c (cs ++ '\n' :: later) = .token token used (rest ++ '\n' :: later) := by
  unfold read at reading ⊢
  simp only [solid, plain, startsComment_before plain later, Bool.false_eq_true, if_false] at reading ⊢
  split at reading
  next backtick =>
    rw [if_pos backtick]
    exact readLiteral_before reading later
  next backtick =>
    rw [if_neg backtick]
    split at reading
    next guillemet =>
      rw [if_pos guillemet]
      exact readLiteral_before reading later
    next guillemet =>
      rw [if_neg guillemet]
      split at reading
      next quoted =>
        rw [if_pos quoted]
        apply readQuoted_before _ reading later
        obtain rfl | rfl := quoted <;> decide
      next unquoted =>
        rw [if_neg unquoted]
        have stops : (!isBlank '\n') = false := by decide
        obtain ⟨taken, left⟩ := @takeWhile_before (!isBlank ·) '\n' stops cs later
        cases reading
        rw [taken, left, wordToken_before]

/-- The first text is closed, so that its scan goes on after the line feed. -/
theorem ofChars_join (offset : Nat) (first later : List Char) (closed : (ofChars offset first).unclosed = none) :
    ofChars offset (first ++ '\n' :: later) =
      ⟨(ofChars offset first).lexemes ++ (ofChars (offset + (width first + 1)) later).lexemes,
        (ofChars (offset + (width first + 1)) later).unclosed⟩ := by
  have feed : isBlank '\n' = true := by decide
  have one : Char.utf8Size '\n' = 1 := by decide
  induction offset, first using Scan.induction with
  | nil offset =>
    rw [List.nil_append, ofChars_blank offset later feed, ofChars_nil, one]
    rfl
  | blank offset c cs white ih =>
    rw [ofChars_blank offset cs white] at closed ⊢
    rw [List.cons_append, ofChars_blank offset _ white, ih closed, width_cons]
    simp only [Nat.add_assoc]
  | comment offset body rest inside ih =>
    rw [ofChars_comment offset rest inside] at closed ⊢
    simp only [List.cons_append, List.append_assoc]
    rw [ofChars_comment offset _ inside, ih closed]
    simp [Nat.add_assoc]
  | openComment offset body inside =>
    -- The comment at the end of the first text now ends at the line feed.
    simp only [List.cons_append]
    rw [ofChars_openComment offset inside, ofChars_comment offset later inside]
    simp [one, Nat.add_assoc]
  | token offset c cs token used rest solid plain reading whole _ ih =>
    rw [ofChars_of_token reading] at closed ⊢
    rw [List.cons_append, ofChars_of_token (read_before solid plain reading later), ih closed, whole]
    simp [Nat.add_assoc]
  | unclosed offset c cs kind reading _ =>
    rw [ofChars_of_unclosed reading] at closed
    cases closed

end Scan

namespace LineMap

theorem laterStarts_append (offset : Nat) (first later : List Char) :
    laterStarts offset (first ++ later) = laterStarts offset first ++ laterStarts (offset + width first) later := by
  induction first generalizing offset with
  | nil => rfl
  | cons c first ih =>
    rw [List.cons_append, laterStarts, laterStarts, width_cons]
    split
    next feed =>
      subst feed
      rw [ih, ← Nat.add_assoc]
      rfl
    next => rw [ih, ← Nat.add_assoc]

theorem laterStarts_shift (amount offset : Nat) (cs : List Char) :
    laterStarts (amount + offset) cs = (laterStarts offset cs).map (amount + ·) := by
  induction cs generalizing offset with
  | nil => rfl
  | cons c cs ih =>
    rw [laterStarts, laterStarts]
    split
    next => rw [Nat.add_assoc, ih, List.map_cons]
    next => rw [Nat.add_assoc, ih]

theorem le_of_mem_laterStarts {offset start : Nat} {cs : List Char} (member : start ∈ laterStarts offset cs) :
    start ≤ offset + width cs := by
  induction cs generalizing offset with
  | nil => cases member
  | cons c cs ih =>
    rw [laterStarts] at member
    rw [width_cons]
    split at member
    next feed =>
      subst feed
      have one : Char.utf8Size '\n' = 1 := by decide
      obtain rfl | member := List.mem_cons.mp member
      · omega
      · have := ih member
        omega
    next =>
      have := ih member
      omega

/-- Line starts that are not behind the offset are counted and left. -/
theorem placeFrom_append {offset next : Nat} {passed : List Nat} (before : ∀ start ∈ passed, start ≤ offset)
    (here : next ≤ offset) (line start : Nat) (later : List Nat) :
    placeFrom offset line start (passed ++ next :: later) = placeFrom offset (line + passed.length + 1) next later := by
  induction passed generalizing line start with
  | nil => rw [List.nil_append, placeFrom, if_pos here, List.length_nil, Nat.add_zero]
  | cons first passed ih =>
    obtain ⟨reached, others⟩ := List.forall_mem_cons.mp before
    rw [List.cons_append, placeFrom, if_pos reached, ih others, List.length_cons, Nat.add_right_comm line]
    rw [Nat.add_assoc line, Nat.add_comm passed.length]

theorem placeFrom_shift (amount lines offset line start : Nat) (later : List Nat) :
    placeFrom (amount + offset) (lines + line) (amount + start) (later.map (amount + ·)) =
      (placeFrom offset line start later).below lines := by
  induction later generalizing line start with
  | nil =>
    rw [List.map_nil, placeFrom, placeFrom, Nat.add_sub_add_left]
    rfl
  | cons next later ih =>
    rw [List.map_cons, placeFrom, placeFrom]
    by_cases reached : next ≤ offset
    · rw [if_pos (Nat.add_le_add_left reached amount), if_pos reached, Nat.add_assoc, ih]
    · have : ¬ amount + next ≤ amount + offset := by omega
      rw [if_neg this, if_neg reached, Nat.add_sub_add_left]
      rfl

theorem position_join (first later : String) (offset : Nat) :
    (ofText (first ++ "\n" ++ later)).position (width first.toList + 1 + offset) =
      ((ofText later).position offset).below (ofText first).lineCount := by
  have whole : (first ++ "\n" ++ later).toList = first.toList ++ '\n' :: later.toList := by simp
  have starts : laterStarts 0 (first.toList ++ '\n' :: later.toList) =
      laterStarts 0 first.toList ++ (width first.toList + 1) ::
        (laterStarts 0 later.toList).map (width first.toList + 1 + ·) := by
    rw [laterStarts_append, Nat.zero_add, laterStarts, if_pos rfl]
    rw [← laterStarts_shift, Nat.add_zero]
  have before : ∀ start ∈ laterStarts 0 first.toList, start ≤ width first.toList + 1 + offset := by
    intro start member
    have := le_of_mem_laterStarts member
    omega
  have here : width first.toList + 1 ≤ width first.toList + 1 + offset := by omega
  simp only [position, ofText, List.tail_cons, lineCount, List.length_cons, whole, starts]
  rw [placeFrom_append before here]
  have moved := placeFrom_shift (width first.toList + 1) ((laterStarts 0 first.toList).length + 1) offset 0 0
    (laterStarts 0 later.toList)
  simpa [Nat.add_comm, Nat.add_left_comm, Nat.add_assoc] using moved

end LineMap
end RouteDoc
