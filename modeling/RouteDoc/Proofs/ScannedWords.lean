import RouteDoc.Proofs.ScanCoverage

/-! Where a scan comes to, and the words it reads there. A word is taken up to the next blank, whatever stands in
it; only then is it compared with the keywords, and it is one of them if what follows ends a keyword. -/

namespace RouteDoc
open Text Spelling

namespace Scan

/-- The places that the scan of a source comes to: the lexemes read so far, and the characters still to be read,
the first of which stands at byte `offset`. -/
inductive Reaches (source : String) : List Lexeme → Nat → List Char → Prop
  | start : Reaches source [] 0 source.toList
  | gap {earlier : List Lexeme} {offset : Nat} {c : Char} {cs used rest : List Char} :
      Reaches source earlier offset (c :: cs) → read c cs = .gap used rest →
      Reaches source earlier (offset + width used) rest
  | token {earlier : List Lexeme} {offset : Nat} {c : Char} {cs used rest : List Char} {token : Token} :
      Reaches source earlier offset (c :: cs) → read c cs = .token token used rest →
      Reaches source (earlier ++ [⟨token, offset, offset + width used⟩]) (offset + width used) rest

variable {source : String} {earlier : List Lexeme} {offset : Nat} {c : Char} {cs used rest : List Char} {token : Token}

/-- A reading takes characters from the front and leaves the others as they are. -/
theorem whole_of_read (reading : read c cs = .gap used rest ∨ ∃ token, read c cs = .token token used rest) :
    c :: cs = used ++ rest := by
  by_cases blank : isBlank c = true
  · rw [read_blank cs blank] at reading
    obtain ⟨rfl, rfl⟩ : c :: cs.takeWhile isBlank = used ∧ cs.dropWhile isBlank = rest := by simpa using reading
    simp
  by_cases starts : startsComment c cs = true
  · rw [read, if_neg blank, if_pos starts] at reading
    obtain ⟨rfl, rfl⟩ : c :: cs.takeWhile (· ≠ '\n') = used ∧ cs.dropWhile (· ≠ '\n') = rest := by
      simpa using reading
    simp
  have explained := explains_read (Bool.eq_false_iff.mpr blank) (Bool.eq_false_iff.mpr starts)
  rcases reading with skipped | ⟨token, taken⟩
  · rw [skipped] at explained
    exact explained.elim
  · rw [taken] at explained
    exact explained.1

namespace Reaches

/-- Nothing is lost on the way: what was read stands before what is left. -/
theorem whole (reaches : Reaches source earlier offset cs) :
    ∃ before, source.toList = before ++ cs ∧ width before = offset := by
  induction reaches with
  | start => exact ⟨[], rfl, rfl⟩
  | @gap _ _ _ _ used _ _ reading ih =>
    obtain ⟨before, same, rfl⟩ := ih
    exact ⟨before ++ used, by rw [same, whole_of_read (.inl reading), List.append_assoc], width_append before used⟩
  | @token _ _ _ _ used _ _ _ reading ih =>
    obtain ⟨before, same, rfl⟩ := ih
    exact ⟨before ++ used, by rw [same, whole_of_read (.inr ⟨_, reading⟩), List.append_assoc],
      width_append before used⟩

/-- The scan of a source goes on with the scan of what is left, wherever it has come to. -/
theorem ofText_eq (reaches : Reaches source earlier offset cs) :
    ofText source = ⟨earlier ++ (ofChars offset cs).lexemes, (ofChars offset cs).unclosed⟩ := by
  induction reaches with
  | start => rfl
  | gap _ reading ih => rw [ih, ofChars_of_gap reading]
  | token _ reading ih => rw [ih, ofChars_of_token reading, List.append_assoc, List.singleton_append]

end Reaches

/-- What a scan does where it has come to: it takes the characters `used` for a token, and goes on with `rest`. -/
structure Takes (source : String) (earlier : List Lexeme) (offset : Nat) (token : Token) (used rest : List Char) :
    Prop where
  bytes : Between source offset (offset + width used) used
  listed : ∃ later, (ofText source).lexemes = earlier ++ ⟨token, offset, offset + width used⟩ :: later
  goesOn : Reaches source (earlier ++ [⟨token, offset, offset + width used⟩]) (offset + width used) rest

theorem Reaches.takes (reaches : Reaches source earlier offset (c :: cs)) (reading : read c cs = .token token used rest) :
    Takes source earlier offset token used rest := by
  obtain ⟨before, same, rfl⟩ := reaches.whole
  rw [whole_of_read (.inr ⟨token, reading⟩)] at same
  exact ⟨between_of_toList same, ⟨_, by rw [reaches.ofText_eq, ofChars_of_token reading]⟩, reaches.token reading⟩

/-! Words. -/

theorem endsKeyword_iff : endsKeyword rest = true ↔ ∀ c ∈ rest.head?, isAsciiBlank c = true := by
  cases rest <;> simp [endsKeyword]

/-- A word stands for a keyword if it is spelled like it and what follows ends it, and else for itself. -/
theorem wordToken_eq_keyword_iff {word : List Char} {keyword : Keyword} :
    wordToken word rest = .keyword keyword ↔
      word = keyword.text.toList ∧ ∀ c ∈ rest.head?, isAsciiBlank c = true := by
  rw [← endsKeyword_iff]
  constructor
  · intro same
    unfold wordToken at same
    dsimp only at same
    split at same
    next ends =>
      split at same
      next found =>
        obtain rfl := Token.keyword.inj same
        exact ⟨by rw [Keyword.text_of_ofText? found, String.toList_ofList], ends⟩
      next => cases same
    next => cases same
  · rintro ⟨rfl, ends⟩
    exact wordToken_keyword keyword ends

theorem wordToken_eq_string {word : List Char} (other : ∀ keyword, wordToken word rest ≠ .keyword keyword) :
    wordToken word rest = .string (String.ofList word) := by
  unfold wordToken at other ⊢
  dsimp only at other ⊢
  split
  next ends =>
    rw [if_pos ends] at other
    split
    next keyword found =>
      rw [found] at other
      exact absurd rfl (other keyword)
    next => rfl
  next => rfl

end Scan

/-- Wherever a scan comes to a word, it takes the word up to the next blank or the end. The token is a keyword if the
word is its spelling and a blank of ASCII or the end follows, and in all other cases it is the word as a string. -/
theorem ofText_word {source : String} {earlier : List Lexeme} {offset : Nat} {word rest : List Char}
    (reaches : Scan.Reaches source earlier offset (word ++ rest)) (solid : Word word)
    (stops : ∀ c ∈ rest.head?, isBlank c = true) :
    ∃ token, Scan.Takes source earlier offset token word rest ∧
      (∀ keyword, token = .keyword keyword ↔
        word = keyword.text.toList ∧ ∀ c ∈ rest.head?, isAsciiBlank c = true) ∧
      ((∀ keyword, token ≠ .keyword keyword) → token = .string (String.ofList word)) := by
  obtain ⟨c, cs, rfl⟩ := List.exists_cons_of_ne_nil solid.notEmpty
  have takes := reaches.takes (Scan.read_word solid stops)
  exact ⟨Scan.wordToken (c :: cs) rest, takes, fun _ => Scan.wordToken_eq_keyword_iff, Scan.wordToken_eq_string⟩

/-- A keyword before a blank that is not of ASCII, after the same keyword before one that is. -/
theorem ofText_word_spaced :
    let source := "USING\tUSING\u2003«x»"
    let earlier : List Lexeme := [⟨.keyword .usingWord, 0, 5⟩]
    Scan.Reaches source earlier 6 ("USING".toList ++ "\u2003«x»".toList) ∧
      Scan.Takes source earlier 6 (.string "USING") "USING".toList "\u2003«x»".toList := by
  intro source earlier
  have reaches : Scan.Reaches source earlier 6 ("USING".toList ++ "\u2003«x»".toList) := by
    have beginning := @Scan.Reaches.start source
    rw [show source.toList = 'U' :: "SING\tUSING\u2003«x»".toList by decide] at beginning
    have reading : Scan.read 'U' "SING\tUSING\u2003«x»".toList =
      .token (.keyword .usingWord) "USING".toList ('\t' :: "USING\u2003«x»".toList) := rfl
    have keyword := beginning.token reading
    exact .gap keyword rfl
  have blank : "\u2003«x»".toList.head? = some '\u2003' := by decide
  have stops : ∀ c ∈ "\u2003«x»".toList.head?, isBlank c = true := by
    rw [blank]
    rintro c ⟨⟩
    decide
  obtain ⟨token, takes, isKeyword, other⟩ := ofText_word reaches (by decide) stops
  have unended : ¬ ∀ c ∈ "\u2003«x»".toList.head?, isAsciiBlank c = true :=
    fun all => absurd (all '\u2003' blank) (by decide)
  obtain rfl := other fun keyword same => unended ((isKeyword keyword).mp same).2
  exact ⟨reaches, takes⟩

end RouteDoc
