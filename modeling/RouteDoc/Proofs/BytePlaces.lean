import Mathlib.Data.List.Basic
import RouteDoc.Position.Search
import RouteDoc.Proofs.SourceLines

/-! Places of bytes. In UTF-8 a line feed is one byte that stands in no other character, so the lines of a source start
directly behind these bytes and can be counted without regard to characters. Every offset stands on exactly one line,
the last that starts at or before it, and the search by halving finds that line too. -/

namespace RouteDoc
open Text

/-- The bytes of a text in UTF-8. -/
def Text.bytes (text : String) : List UInt8 := text.toUTF8.data.toList

/-- The byte of a line feed. -/
def Text.feedByte : UInt8 := 0x0a

namespace LineMap
variable {starts : List Nat} {offset line start : Nat}

/-! The bytes of a source. -/

theorem feedByte_notMem_encode {c : Char} (other : c ≠ '\n') : feedByte ∉ String.utf8EncodeChar c := by
  have value : c.val.toNat ≠ 10 := by
    intro same
    exact other (Char.ext (UInt32.toNat_inj.mp same))
  have differs (n : Nat) (byte : n % 256 ≠ 10) : feedByte ≠ UInt8.ofNat n := by
    intro same
    exact byte (congrArg UInt8.toNat same).symm
  have continues (n : Nat) : feedByte ≠ UInt8.ofNat (n % 64 + 128) := differs _ (by omega)
  unfold String.utf8EncodeChar
  simp only [apply_ite (feedByte ∈ ·), List.mem_cons, List.not_mem_nil, or_false]
  split
  next => exact differs _ (by omega)
  split
  next => exact not_or.mpr ⟨differs _ (by omega), continues _⟩
  split
  next => exact not_or.mpr ⟨differs _ (by omega), not_or.mpr ⟨continues _, continues _⟩⟩
  next => exact not_or.mpr ⟨differs _ (by omega), not_or.mpr ⟨continues _, not_or.mpr ⟨continues _, continues _⟩⟩⟩

theorem laterStarts_eq_findIdxs (offset : Nat) (cs : List Char) :
    laterStarts offset cs = (cs.flatMap String.utf8EncodeChar).findIdxs (· == feedByte) (offset + 1) := by
  induction cs generalizing offset with
  | nil => rfl
  | cons c cs ih =>
    rw [List.flatMap_cons, List.findIdxs_append, laterStarts, String.length_utf8EncodeChar]
    split
    next feed =>
      subst feed
      have encoded : String.utf8EncodeChar '\n' = [feedByte] := by decide
      have one : Char.utf8Size '\n' = 1 := by decide
      rw [encoded, one, ih, List.findIdxs_singleton, if_pos (beq_self_eq_true feedByte)]
      rfl
    next other =>
      have none : (String.utf8EncodeChar c).findIdxs (· == feedByte) (offset + 1) = [] := by
        apply List.findIdxs_eq_nil_iff.mpr
        intro byte member
        exact beq_eq_false_iff_ne.mpr fun same => feedByte_notMem_encode other (same ▸ member)
      rw [none, List.nil_append, ih, Nat.add_right_comm]

theorem starts_ofText (source : String) :
    (ofText source).starts = 0 :: (bytes source).findIdxs (· == feedByte) 1 := by
  have encoded : bytes source = source.toList.flatMap String.utf8EncodeChar := by
    rw [bytes, String.toUTF8_eq_toByteArray, ← String.utf8Encode_toList, List.utf8Encode, List.toList_data_toByteArray]
  rw [ofText, laterStarts_eq_findIdxs, encoded]

theorem sorted_ofText (source : String) : (ofText source).starts.Pairwise (· < ·) := by
  rw [starts_ofText, List.pairwise_cons]
  refine ⟨?_, List.pairwise_findIdxs⟩
  intro start member
  exact List.ge_of_mem_findIdxs start member

/-- The lines other than the first start behind the line feeds. -/
theorem mem_starts_ofText {source : String} :
    start ∈ (ofText source).starts ↔ start = 0 ∨ ∃ feed, start = feed + 1 ∧ (bytes source)[feed]? = some feedByte := by
  rw [starts_ofText, List.mem_cons, List.mem_findIdxs_iff_getElem_sub_pos]
  apply or_congr_right
  constructor
  · rintro ⟨behind, inside, byte⟩
    exact ⟨start - 1, by omega, List.getElem?_eq_some_iff.mpr ⟨inside, eq_of_beq byte⟩⟩
  · rintro ⟨feed, rfl, byte⟩
    obtain ⟨inside, byte⟩ := List.getElem?_eq_some_iff.mp byte
    exact ⟨Nat.le_add_left 1 feed, inside, beq_iff_eq.mpr byte⟩

/-! The line of an offset. -/

/-- A line that starts at or before an offset, while all lines after it start behind the offset. -/
structure Holds (starts : List Nat) (offset line start : Nat) : Prop where
  begins : starts[line]? = some start
  reached : start ≤ offset
  ends : ∀ later, line < later → ∀ next, starts[later]? = some next → offset < next

theorem lt_of_sorted (sorted : starts.Pairwise (· < ·)) {first second before after : Nat}
    (begins : starts[first]? = some before) (follows : starts[second]? = some after) (earlier : first < second) :
    before < after := by
  obtain ⟨inside, rfl⟩ := List.getElem?_eq_some_iff.mp begins
  obtain ⟨within, rfl⟩ := List.getElem?_eq_some_iff.mp follows
  exact List.pairwise_iff_getElem.mp sorted first second inside within earlier

theorem le_of_sorted (sorted : starts.Pairwise (· < ·)) {first second before after : Nat}
    (begins : starts[first]? = some before) (follows : starts[second]? = some after) (ordered : first ≤ second) :
    before ≤ after := by
  rcases Nat.lt_or_eq_of_le ordered with earlier | rfl
  · exact Nat.le_of_lt (lt_of_sorted sorted begins follows earlier)
  · exact Nat.le_of_eq (Option.some.inj (begins.symm.trans follows))

/-- A later offset stands on the same line or on a later one. -/
theorem Holds.line_le {other next after : Nat} (holds : Holds starts offset line start)
    (follows : Holds starts other next after) (behind : offset ≤ other) : line ≤ next := by
  apply Nat.le_of_not_lt
  intro before
  have := follows.ends line before start holds.begins
  have := holds.reached
  omega

theorem Holds.line_eq {next after : Nat} (holds : Holds starts offset line start)
    (also : Holds starts offset next after) : line = next :=
  Nat.le_antisymm (holds.line_le also (Nat.le_refl _)) (also.line_le holds (Nat.le_refl _))

theorem placeFrom_between {passed ahead : List Nat} (before : ∀ next ∈ passed, next ≤ offset)
    (behind : ∀ next ∈ ahead, offset < next) (line start : Nat) :
    placeFrom offset line start (passed ++ ahead) = ⟨line + passed.length, offset - passed.getLastD start⟩ := by
  induction passed generalizing line start with
  | nil => exact placeFrom_last behind line start
  | cons next passed ih =>
    obtain ⟨here, before⟩ := List.forall_mem_cons.mp before
    rw [List.cons_append, placeFrom, if_pos here, ih before, List.getLastD_cons, List.length_cons]
    simp [Nat.add_comm, Nat.add_left_comm]

theorem holds_between {passed ahead : List Nat} (before : ∀ next ∈ passed, next ≤ offset)
    (behind : ∀ next ∈ ahead, offset < next) :
    Holds (0 :: (passed ++ ahead)) offset passed.length (passed.getLastD 0) := by
  refine ⟨?_, ?_, ?_⟩
  · obtain rfl | ⟨front, last, rfl⟩ := passed.eq_nil_or_concat
    · rfl
    · simp
  · obtain rfl | ⟨front, last, rfl⟩ := passed.eq_nil_or_concat
    · exact Nat.zero_le offset
    · simpa using before last (by simp)
  · intro later beyond next found
    obtain ⟨index, rfl⟩ := Nat.exists_eq_add_of_lt beyond
    apply behind next
    rw [List.getElem?_cons_succ, List.getElem?_append_right (Nat.le_add_right ..)] at found
    exact List.mem_of_getElem? found

/-- The line feeds before an offset are the ends of the lines before its line. -/
theorem position_ofText (source : String) (offset : Nat) :
    let place := (ofText source).position offset
    place.line = ((bytes source).take offset).count feedByte ∧
      ∃ start, Holds (ofText source).starts offset place.line start ∧ place.column = offset - start := by
  have split : (bytes source).findIdxs (· == feedByte) 1 =
      ((bytes source).take offset).findIdxs (· == feedByte) 1 ++
        ((bytes source).drop offset).findIdxs (· == feedByte) (1 + ((bytes source).take offset).length) := by
    rw [← List.findIdxs_append, List.take_append_drop]
  have before : ∀ next ∈ ((bytes source).take offset).findIdxs (· == feedByte) 1, next ≤ offset := by
    intro next member
    have inside := List.lt_add_of_mem_findIdxs next member
    rw [List.length_take] at inside
    omega
  have behind : ∀ next ∈ ((bytes source).drop offset).findIdxs (· == feedByte)
      (1 + ((bytes source).take offset).length), offset < next := by
    intro next member
    have beyond := List.ge_of_mem_findIdxs next member
    have inside := List.lt_add_of_mem_findIdxs next member
    rw [List.length_take] at beyond inside
    rw [List.length_drop] at inside
    omega
  have counted : (((bytes source).take offset).findIdxs (· == feedByte) 1).length =
      ((bytes source).take offset).count feedByte := List.length_findIdxs
  have holds := holds_between before behind
  rw [← split, ← starts_ofText] at holds
  have placed := placeFrom_between before behind 0 0
  rw [← split] at placed
  rw [position, starts_ofText, List.tail_cons, placed, Nat.zero_add, ← starts_ofText]
  exact ⟨counted, _, holds, rfl⟩

/-! The search. -/

/-- What a search among line starts may answer. -/
inductive Answers (starts : List Nat) (offset : Nat) : Except Nat Nat → Prop
  | start {index : Nat} : starts[index]? = some offset → Answers starts offset (.ok index)
  | between {index : Nat} : index ≤ starts.length →
      (∀ before < index, ∀ start, starts[before]? = some start → start < offset) →
      (∀ after, index ≤ after → ∀ start, starts[after]? = some start → offset < start) →
      Answers starts offset (.error index)

theorem answers_searchBetween (sorted : starts.Pairwise (· < ·)) (offset low high : Nat)
    (within : high ≤ starts.length) (apart : low ≤ high)
    (below : ∀ before < low, ∀ start, starts[before]? = some start → start < offset)
    (above : ∀ after, high ≤ after → ∀ start, starts[after]? = some start → offset < start) :
    Answers starts offset (searchBetween starts offset low high within) := by
  fun_induction searchBetween starts offset low high within with
  | case1 low high within opened middle inside start same =>
    exact .start (List.getElem?_eq_some_iff.mpr ⟨_, same⟩)
  | case2 low high within opened middle inside start other smaller ih =>
    have begins : starts[middle]? = some start := List.getElem?_eq_getElem _
    refine ih inside ?_ above
    intro before earlier first found
    exact Nat.lt_of_le_of_lt (le_of_sorted sorted found begins (Nat.le_of_lt_succ earlier)) smaller
  | case3 low high within opened middle inside start other greater ih =>
    have begins : starts[middle]? = some start := List.getElem?_eq_getElem _
    refine ih (by omega) below ?_
    intro after beyond last found
    have behind : offset < start := by omega
    exact Nat.lt_of_lt_of_le behind (le_of_sorted sorted begins found beyond)
  | case4 low high within closed =>
    obtain rfl : low = high := by omega
    exact .between within below above

theorem answers_search {lineMap : LineMap} (sorted : lineMap.starts.Pairwise (· < ·)) (offset : Nat) :
    Answers lineMap.starts offset (lineMap.search offset) := by
  apply answers_searchBetween sorted offset 0 _ _ (Nat.zero_le _)
  · intro before none
    omega
  · intro after beyond start found
    rw [List.getElem?_eq_none beyond] at found
    cases found

/-- As long as some line holds the offset, the search leads to it. -/
theorem Holds.line? {lineMap : LineMap} (sorted : lineMap.starts.Pairwise (· < ·))
    (holds : Holds lineMap.starts offset line start) : lineMap.line? offset = some line := by
  have answers := answers_search sorted offset
  unfold LineMap.line?
  split
  next index found =>
    rw [found] at answers
    obtain ⟨begins⟩ := answers
    have here : Holds lineMap.starts offset index offset :=
      ⟨begins, Nat.le_refl offset, fun later beyond next follows => lt_of_sorted sorted begins follows beyond⟩
    exact congrArg some (here.line_eq holds)
  next found =>
    rw [found] at answers
    obtain _ | ⟨_, _, above⟩ := answers
    have := above line (Nat.zero_le line) start holds.begins
    have := holds.reached
    omega
  next index found =>
    rw [found] at answers
    obtain _ | ⟨within, below, above⟩ := answers
    have begins : lineMap.starts[index]? = some lineMap.starts[index] := List.getElem?_eq_getElem within
    have here : Holds lineMap.starts offset index lineMap.starts[index] :=
      ⟨begins, Nat.le_of_lt (below index (Nat.lt_add_one index) _ begins), above⟩
    exact congrArg some (here.line_eq holds)

/-! Offsets and places. -/

/-- The byte index directly behind the last line feed before an offset, or zero if there is none. -/
structure BehindFeed (bytes : List UInt8) (offset start : Nat) : Prop where
  reached : start ≤ offset
  behind : start = 0 ∨ ∃ feed, start = feed + 1 ∧ bytes[feed]? = some feedByte
  last : ∀ feed, start ≤ feed → feed < offset → bytes[feed]? ≠ some feedByte

theorem Holds.behindFeed {source : String} (holds : Holds (ofText source).starts offset line start) :
    BehindFeed (bytes source) offset start := by
  refine ⟨holds.reached, mem_starts_ofText.mp (List.mem_of_getElem? holds.begins), ?_⟩
  intro feed beyond before byte
  obtain ⟨next, follows⟩ := List.mem_iff_getElem?.mp (mem_starts_ofText.mpr (.inr ⟨feed, rfl, byte⟩))
  -- The line behind that feed is not a later one, so it starts no later than this one.
  rcases Nat.lt_or_ge line next with later | earlier
  · have := holds.ends next later _ follows
    omega
  · have := le_of_sorted (sorted_ofText source) follows holds.begins earlier
    omega

theorem Holds.earlier {other next after : Nat} (holds : Holds starts offset line start)
    (follows : Holds starts other next after) (behind : offset < other) :
    Position.Earlier ⟨line, offset - start⟩ ⟨next, other - after⟩ := by
  rcases Nat.lt_or_eq_of_le (holds.line_le follows (Nat.le_of_lt behind)) with before | rfl
  · exact .inl before
  · obtain rfl := Option.some.inj (holds.begins.symm.trans follows.begins)
    have := holds.reached
    exact .inr ⟨rfl, by simp only; omega⟩

/-- The place of any byte offset, also of one inside of a character or behind the end: the line counts the line feeds
before the offset, and the column counts the bytes behind the last of them. The search by halving never finds that the
offset comes before the first line, and later offsets have later places. -/
theorem position_counts (source : String) (offset : Nat) :
    let lineMap := ofText source
    let place := lineMap.position offset
    lineMap.search offset ≠ .error 0 ∧ lineMap.locate? offset = some place ∧
      place.line = ((bytes source).take offset).count feedByte ∧
      place.line < lineMap.lineCount ∧
      (∃ start, BehindFeed (bytes source) offset start ∧ place.column = offset - start ∧
        lineMap.starts[place.line]? = some start ∧ start + place.column = offset) ∧
      ∀ other, offset < other → place.Earlier (lineMap.position other) := by
  intro lineMap place
  obtain ⟨counts, start, holds, column⟩ := position_ofText source offset
  have whole : place = ⟨place.line, offset - start⟩ := by rw [← column]
  obtain ⟨inside, _⟩ := List.getElem?_eq_some_iff.mp holds.begins
  have line := holds.line? (sorted_ofText source)
  refine ⟨?_, ?_, counts, inside, ⟨start, holds.behindFeed, column, holds.begins, ?_⟩, ?_⟩
  · intro before
    rw [LineMap.line?, before] at line
    cases line
  · have found : lineMap.locate? offset = some ⟨place.line, offset - start⟩ := by
      simp only [locate?, lineMap, line, Option.bind_eq_bind, Option.bind_some, holds.begins, if_pos holds.reached]
      rfl
    rw [found, ← whole]
  · rw [column, Nat.add_sub_cancel' holds.reached]
  · intro other behind
    obtain ⟨_, after, follows, second⟩ := position_ofText source other
    have earlier := holds.earlier follows behind
    rwa [← column, ← second] at earlier

/-- An offset inside of a character, and one behind the end of the source. -/
theorem position_counts_inside :
    let lineMap := ofText "é\n\nb"
    lineMap.position 1 = ⟨0, 1⟩ ∧ lineMap.position 9 = ⟨2, 5⟩ ∧ lineMap.search 9 = .error 3 ∧
      lineMap.locate? 9 = some ⟨2, 5⟩ ∧ (lineMap.position 1).Earlier (lineMap.position 9) := by
  intro lineMap
  have inside : lineMap.position 1 = ⟨0, 1⟩ := by decide +kernel
  have behind : lineMap.position 9 = ⟨2, 5⟩ := by decide +kernel
  obtain ⟨_, found, _⟩ := position_counts "é\n\nb" 9
  obtain ⟨_, _, _, _, _, later⟩ := position_counts "é\n\nb" 1
  exact ⟨inside, behind, by decide +kernel, behind ▸ found, later 9 (by decide)⟩

end LineMap
end RouteDoc
