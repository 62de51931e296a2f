import RouteDoc.Token.Scan
import RouteDoc.Token.Spelling

/-! What one reading of the scanner takes, in terms of spellings and gaps, and what the scan of a
text owes to the scan of its rest. -/

namespace RouteDoc
open Text Spelling

theorem Keyword.ofText?_text (word : Keyword) : ofText? word.text = some word := by
  cases word <;> decide

theorem Keyword.text_of_ofText? {text : String} {word : Keyword} (found : ofText? text = some word) :
    word.text = text := by
  simpa using List.find?_some found

/-! Delimited texts end at the first delimiter that may close them. -/

theorem Text.cutAt?_append {mark : Char} {before : List Char} (after : List Char) (absent : mark ∉ before) :
    cutAt? mark (before ++ mark :: after) = some (before, after) := by
  induction before with
  | nil => simp [cutAt?]
  | cons c before ih =>
    simp only [List.mem_cons, not_or] at absent
    simp [cutAt?, ih absent.2, Ne.symm absent.1]

theorem Text.of_cutAt? {mark : Char} {cs before after : List Char}
    (found : cutAt? mark cs = some (before, after)) : cs = before ++ mark :: after ∧ mark ∉ before := by
  induction cs generalizing before with
  | nil => cases found
  | cons c cs ih =>
    unfold cutAt? at found
    split at found
    next same =>
      cases found
      exact ⟨by rw [same]; rfl, List.not_mem_nil⟩
    next different =>
      obtain ⟨⟨shorter, rest⟩, inner, same⟩ := Option.map_eq_some_iff.mp found
      cases same
      obtain ⟨rfl, absent⟩ := ih inner
      exact ⟨rfl, by simp [Ne.symm different, absent]⟩

theorem Text.not_mem_of_cutAt? {mark : Char} {cs : List Char} (missing : cutAt? mark cs = none) :
    mark ∉ cs := by
  induction cs with
  | nil => exact List.not_mem_nil
  | cons c cs ih =>
    unfold cutAt? at missing
    split at missing
    next => cases missing
    next different =>
      have absent := ih (Option.map_eq_none_iff.mp missing)
      simp [Ne.symm different, absent]

namespace Spelling

theorem Body.untilQuote {quote : Char} {body text : List Char} (spelled : Body quote body text)
    (proper : quote ≠ '\\') (rest : List Char) :
    Scan.untilQuote quote (body ++ quote :: rest) = some (body, rest) := by
  induction spelled with
  | nil => simp [Scan.untilQuote, proper]
  | plain other solid _ ih => simp [Scan.untilQuote, other, solid, ih]
  | escaped _ ih => simp [Scan.untilQuote, ih]

theorem Body.unescape {quote : Char} {body text : List Char} (spelled : Body quote body text) :
    Scan.unescape body = text := by
  induction spelled with
  | nil => rfl
  | plain _ solid _ ih => simp [Scan.unescape, solid, ih]
  | escaped _ ih => simp [Scan.unescape, ih]

theorem Body.of_untilQuote {quote : Char} {cs body rest : List Char}
    (found : Scan.untilQuote quote cs = some (body, rest)) :
    cs = body ++ quote :: rest ∧ Body quote body (Scan.unescape body) := by
  fun_induction Scan.untilQuote quote cs generalizing body with
  | case1 => cases found
  | case2 => cases found
  | case3 escaped cs ih =>
    obtain ⟨⟨shorter, after⟩, inner, same⟩ := Option.map_eq_some_iff.mp found
    cases same
    obtain ⟨rfl, spelled⟩ := ih inner
    exact ⟨rfl, .escaped spelled⟩
  | case4 cs =>
    cases found
    exact ⟨rfl, .nil⟩
  | case5 c cs lone paired other ih =>
    obtain ⟨⟨shorter, after⟩, inner, same⟩ := Option.map_eq_some_iff.mp found
    cases same
    obtain ⟨rfl, spelled⟩ := ih inner
    have solid : c ≠ '\\' := by
      rintro rfl
      cases all : shorter ++ quote :: rest with
      | nil => exact lone rfl all
      | cons escaped more => exact paired escaped more rfl all
    have plain := Body.plain other solid spelled
    simpa [Scan.unescape, solid] using plain

end Spelling

/-! Gaps. A run of blanks is read in one piece, so a scan may drop them one by one. -/

theorem Gap.append {first second : List Char} (before : Gap first) (after : Gap second) :
    Gap (first ++ second) := by
  induction before with
  | nil => exact after
  | blank white _ ih => exact .blank white ih
  | comment inside _ ih => simpa using Gap.comment inside ih

theorem LastGap.prepend {first second : List Char} (before : Gap first) (after : LastGap second) :
    LastGap (first ++ second) := by
  cases after with
  | closed gap => exact .closed (before.append gap)
  | open_ gap inside => simpa using LastGap.open_ (before.append gap) inside

namespace Scan
variable {offset : Nat} {c : Char} {cs used rest : List Char}

theorem ofChars_nil (offset : Nat) : ofChars offset [] = ⟨[], none⟩ := by rw [ofChars.eq_def]

theorem ofChars_of_gap (reading : read c cs = .gap used rest) :
    ofChars offset (c :: cs) = ofChars (offset + width used) rest := by
  rw [ofChars.eq_def]
  simp only
  split <;> simp_all

theorem ofChars_of_token {token : Token} (reading : read c cs = .token token used rest) :
    ofChars offset (c :: cs) =
      ⟨⟨token, offset, offset + width used⟩ :: (ofChars (offset + width used) rest).lexemes,
        (ofChars (offset + width used) rest).unclosed⟩ := by
  rw [ofChars.eq_def]
  simp only
  split <;> simp_all

theorem ofChars_of_unclosed {kind : Delimited} (reading : read c cs = .unclosed kind) :
    ofChars offset (c :: cs) = ⟨[], some ⟨kind, offset⟩⟩ := by
  rw [ofChars.eq_def]
  simp only
  split <;> simp_all

theorem read_blank (cs : List Char) (blank : isBlank c = true) :
    read c cs = .gap (c :: cs.takeWhile isBlank) (cs.dropWhile isBlank) := by
  simp [read, blank]

theorem ofChars_blank (offset : Nat) (cs : List Char) (blank : isBlank c = true) :
    ofChars offset (c :: cs) = ofChars (offset + c.utf8Size) cs := by
  rw [ofChars_of_gap (read_blank cs blank)]
  cases cs with
  | nil => simp
  | cons next cs =>
    by_cases more : isBlank next = true
    · rw [ofChars_of_gap (read_blank cs more)]
      simp [more, Nat.add_assoc]
    · simp [more]

theorem read_comment (cs : List Char) :
    read '/' ('/' :: cs) =
      .gap ('/' :: '/' :: cs.takeWhile (· ≠ '\n')) (cs.dropWhile (· ≠ '\n')) := by
  have solid : isBlank '/' = false := by decide
  simp [read, solid, startsComment]

private theorem inLine {body : List Char} (inside : '\n' ∉ body) :
    ∀ c ∈ body, decide (c ≠ '\n') = true := by
  intro c member
  simp only [decide_eq_true_eq]
  rintro rfl
  exact inside member

theorem ofChars_comment (offset : Nat) {body : List Char} (rest : List Char) (inside : '\n' ∉ body) :
    ofChars offset ('/' :: '/' :: (body ++ '\n' :: rest)) =
      ofChars (offset + width ('/' :: '/' :: (body ++ ['\n']))) rest := by
  have blank : isBlank '\n' = true := by decide
  rw [ofChars_of_gap (read_comment (body ++ '\n' :: rest)), List.takeWhile_append_of_pos (inLine inside),
    List.dropWhile_append_of_pos (inLine inside)]
  simp [ofChars_blank _ rest blank, Nat.add_assoc]

theorem ofChars_openComment (offset : Nat) {body : List Char} (inside : '\n' ∉ body) :
    ofChars offset ('/' :: '/' :: body) = ⟨[], none⟩ := by
  have all : body.dropWhile (· ≠ '\n') = [] := by
    have dropped := @List.dropWhile_append_of_pos _ (· ≠ '\n') body [] (inLine inside)
    rwa [List.append_nil] at dropped
  rw [ofChars_of_gap (read_comment body), all, ofChars_nil]

/-- A gap is passed over, whatever stands after it. -/
theorem ofChars_gap {gap : List Char} (skipped : Gap gap) (offset : Nat) (rest : List Char) :
    ofChars offset (gap ++ rest) = ofChars (offset + width gap) rest := by
  induction skipped generalizing offset with
  | nil => simp
  | blank white _ ih =>
    rw [List.cons_append, ofChars_blank _ _ white, ih, width_cons, Nat.add_assoc]
  | comment inside _ ih =>
    simp only [List.cons_append, List.append_assoc]
    rw [ofChars_comment offset _ inside, ih]
    simp [Nat.add_assoc]

theorem ofChars_lastGap {gap : List Char} (skipped : LastGap gap) (offset : Nat) :
    ofChars offset gap = ⟨[], none⟩ := by
  cases skipped with
  | closed gap => simpa [ofChars_nil] using ofChars_gap gap offset []
  | @open_ gap body skipped inside =>
    rw [ofChars_gap skipped offset ('/' :: '/' :: body), ofChars_openComment _ inside]

/-! Words. -/

theorem word_keyword (word : Keyword) : Word word.text.toList := by
  cases word <;> decide

theorem wordToken_keyword (word : Keyword) (ends : endsKeyword rest = true) :
    wordToken word.text.toList rest = .keyword word := by
  simp [wordToken, ends, Keyword.ofText?_text]

theorem wordToken_bare {word : List Char} (bare : Bare word) (rest : List Char) :
    wordToken word rest = .string (String.ofList word) := by
  have missing : Keyword.ofText? (String.ofList word) = none := by
    rw [Option.eq_none_iff_forall_ne_some]
    intro keyword found
    apply bare.notKeyword keyword
    rw [Keyword.text_of_ofText? found, String.toList_ofList]
  simp [wordToken, missing]

private theorem readWord_eq {word : List Char} (unbroken : ∀ d ∈ word, isBlank d = false)
    (stops : ∀ d ∈ rest.head?, isBlank d = true) :
    (word ++ rest).takeWhile (!isBlank ·) = word ∧ (word ++ rest).dropWhile (!isBlank ·) = rest := by
  have kept : ∀ d ∈ word, (!isBlank d) = true := by simpa using unbroken
  rw [List.takeWhile_append_of_pos kept, List.dropWhile_append_of_pos kept]
  cases rest with
  | nil => simp
  | cons d rest => simp [stops d rfl]

theorem read_word (word : Word (c :: cs)) (stops : ∀ d ∈ rest.head?, isBlank d = true) :
    read c (cs ++ rest) = .token (wordToken (c :: cs) rest) (c :: cs) rest := by
  have solid : isBlank c = false := word.unbroken c (by simp)
  have opening := word.notOpening c rfl
  simp only [opensDelimited, Bool.or_eq_false_iff, beq_eq_false_iff_ne] at opening
  obtain ⟨⟨⟨backtick, guillemet⟩, double⟩, single⟩ := opening
  have plain : startsComment c (cs ++ rest) = false := by
    cases cs with
    | nil =>
      cases rest with
      | nil => simp [startsComment]
      | cons d rest =>
        have white := stops d rfl
        have different : d ≠ '/' := by rintro rfl; exact absurd white (by decide)
        simp [startsComment, different]
    | cons d cs => simpa [startsComment] using word.notComment
  have unbroken : ∀ d ∈ cs, isBlank d = false := fun d member =>
    word.unbroken d (List.mem_cons_of_mem c member)
  obtain ⟨taken, left⟩ := readWord_eq unbroken stops
  simp [read, solid, plain, backtick, guillemet, double, single, taken, left]

/-! Delimited tokens. -/

theorem read_backticks {text : List Char} (absent : '\x60' ∉ text) (rest : List Char) :
    read '\x60' (text ++ '\x60' :: rest) =
      .token (.literal (String.ofList text)) ('\x60' :: (text ++ ['\x60'])) rest := by
  have solid : isBlank '\x60' = false := by decide
  simp [read, solid, startsComment, readLiteral, cutAt?_append rest absent]

theorem read_guillemets {text : List Char} (absent : '»' ∉ text) (rest : List Char) :
    read '«' (text ++ '»' :: rest) =
      .token (.literal (String.ofList text)) ('«' :: (text ++ ['»'])) rest := by
  have solid : isBlank '«' = false := by decide
  simp [read, solid, startsComment, readLiteral, cutAt?_append rest absent]

theorem read_quote {quote : Char} (quoted : quote = '\x22' ∨ quote = '\x27') (cs : List Char) :
    read quote cs = readQuoted quote cs := by
  have double : isBlank '\x22' = false := by decide
  have single : isBlank '\x27' = false := by decide
  obtain rfl | rfl := quoted <;> simp [read, double, single, startsComment]

theorem read_quotes {quote : Char} {body text : List Char} (quoted : quote = '\x22' ∨ quote = '\x27')
    (spelled : Body quote body text) (rest : List Char) :
    read quote (body ++ quote :: rest) =
      .token (.string (String.ofList text)) (quote :: (body ++ [quote])) rest := by
  have proper : quote ≠ '\\' := by obtain rfl | rfl := quoted <;> decide
  have found := spelled.untilQuote proper rest
  simp [read_quote quoted, readQuoted, found, spelled.unescape]

/-- A spelling before what it admits is read as its token, to its last character. -/
theorem read_spelled {token : Token} {spelled : List Char} {ending : Ending}
    (spells : Spells token spelled ending) (admits : ending.admits rest) :
    ∃ c cs, spelled = c :: cs ∧ read c (cs ++ rest) = .token token spelled rest := by
  cases spells with
  | keyword word =>
    obtain ⟨c, cs, same⟩ := List.exists_cons_of_ne_nil (word_keyword word).notEmpty
    have stops : ∀ d ∈ rest.head?, isBlank d = true := by
      cases rest with
      | nil => exact nofun
      | cons d rest => rintro _ ⟨rfl⟩; exact isBlank_of_isAsciiBlank admits
    have ends : endsKeyword rest = true := by
      cases rest with
      | nil => rfl
      | cons d rest => exact admits
    refine ⟨c, cs, same, ?_⟩
    rw [read_word (same ▸ word_keyword word) stops, ← same, wordToken_keyword word ends]
  | @bare word bare =>
    obtain ⟨c, cs, rfl⟩ := List.exists_cons_of_ne_nil bare.notEmpty
    have stops : ∀ d ∈ rest.head?, isBlank d = true := by
      cases rest with
      | nil => exact nofun
      | cons d rest => rintro _ ⟨rfl⟩; exact admits
    exact ⟨c, cs, rfl, by rw [read_word bare.toWord stops, wordToken_bare bare]⟩
  | backticks absent =>
    refine ⟨_, _, rfl, ?_⟩
    simpa using read_backticks absent rest
  | guillemets absent =>
    refine ⟨_, _, rfl, ?_⟩
    simpa using read_guillemets absent rest
  | quotes quoted spelled =>
    refine ⟨_, _, rfl, ?_⟩
    simpa using read_quotes quoted spelled rest

end Scan

/-! Everything that stands where a token may start is a spelling, or lacks its end. -/

/-- The characters that a token is read from: one of its spellings, or the spelling of a keyword that
is a string because no ASCII blank follows. -/
def Written (token : Token) (piece : List Char) : Prop :=
  (∃ ending, Spells token piece ending) ∨
    ∃ word : Keyword, token = .string word.text ∧ piece = word.text.toList

/-- An opening delimiter with a text after it that holds no closing one. -/
inductive Unending : Delimited → List Char → Prop
  | backtick {rest : List Char} : '\x60' ∉ rest → Unending .literal ('\x60' :: rest)
  | guillemet {rest : List Char} : '»' ∉ rest → Unending .literal ('«' :: rest)
  | quote {quote : Char} {rest : List Char} : quote = '\x22' ∨ quote = '\x27' →
      (∀ body text after, Body quote body text → rest ≠ body ++ quote :: after) →
      Unending .string (quote :: rest)

namespace Scan
variable {c : Char} {cs : List Char}

theorem wordToken_written {word : List Char} (solid : Word word) (rest : List Char) :
    Written (wordToken word rest) word := by
  by_cases spelled : ∃ keyword : Keyword, word = keyword.text.toList
  · obtain ⟨keyword, rfl⟩ := spelled
    by_cases ends : endsKeyword rest = true
    · rw [wordToken_keyword keyword ends]
      exact .inl ⟨_, .keyword keyword⟩
    · exact .inr ⟨keyword, by simp [wordToken, ends], rfl⟩
  · have bare : Bare word := ⟨solid, fun keyword same => spelled ⟨keyword, same⟩⟩
    rw [wordToken_bare bare]
    exact .inl ⟨_, .bare bare⟩

/-- A reading that yields a token or the lack of a delimiter, as the text has it. -/
def Explains (text : List Char) : Reading → Prop
  | .gap _ _ => False
  | .token token used rest => text = used ++ rest ∧ Written token used
  | .unclosed kind => Unending kind text

theorem explains_literal {close : Char}
    (spells : ∀ text, close ∉ text →
      Spells (.literal (String.ofList text)) (c :: (text ++ [close])) .free)
    (unending : close ∉ cs → Unending .literal (c :: cs)) :
    Explains (c :: cs) (readLiteral c close cs) := by
  unfold readLiteral
  split
  next missing => exact unending (not_mem_of_cutAt? missing)
  next body rest found =>
    obtain ⟨rfl, absent⟩ := of_cutAt? found
    exact ⟨by simp, .inl ⟨_, spells body absent⟩⟩

theorem explains_quoted (quoted : c = '\x22' ∨ c = '\x27') : Explains (c :: cs) (readQuoted c cs) := by
  have proper : c ≠ '\\' := by obtain rfl | rfl := quoted <;> decide
  unfold readQuoted
  split
  next missing =>
    refine .quote quoted fun body text after spelled same => ?_
    rw [same, spelled.untilQuote proper after] at missing
    cases missing
  next body rest found =>
    obtain ⟨rfl, spelled⟩ := Body.of_untilQuote found
    exact ⟨by simp, .inl ⟨_, .quotes quoted spelled⟩⟩

theorem explains_read (solid : isBlank c = false) (plain : startsComment c cs = false) :
    Explains (c :: cs) (read c cs) := by
  unfold read
  simp only [solid, plain, Bool.false_eq_true, if_false]
  split
  next backtick =>
    subst backtick
    exact explains_literal (fun _ => .backticks) .backtick
  split
  next guillemet =>
    subst guillemet
    exact explains_literal (fun _ => .guillemets) .guillemet
  split
  next quoted => exact explains_quoted quoted
  next backtick guillemet unquoted =>
    refine ⟨by simp, wordToken_written ⟨List.cons_ne_nil _ _, ?_, ?_, ?_⟩ _⟩
    · intro d member
      obtain rfl | inside := List.mem_cons.mp member
      · exact solid
      · have kept := List.all_eq_true.mp (@List.all_takeWhile _ (!isBlank ·) cs) d inside
        simpa using kept
    · rintro _ ⟨rfl⟩
      simp only [not_or] at unquoted
      simp [opensDelimited, backtick, guillemet, unquoted]
    · cases cs with
      | nil => exact nofun
      | cons d cs =>
        intro same
        by_cases white : isBlank d = true
        · simp [white] at same
        · simp [white] at same
          simp [startsComment, same] at plain

/-- A text taken apart from its front as a scan does it: one blank or comment at a time until a token starts,
and after each token again. -/
theorem induction {motive : Nat → List Char → Prop} (nil : ∀ offset, motive offset [])
    (blank : ∀ offset c cs, isBlank c = true → motive (offset + c.utf8Size) cs → motive offset (c :: cs))
    (comment : ∀ offset body rest, '\n' ∉ body →
      motive (offset + width ('/' :: '/' :: (body ++ ['\n']))) rest →
      motive offset ('/' :: '/' :: (body ++ '\n' :: rest)))
    (openComment : ∀ offset body, '\n' ∉ body → motive offset ('/' :: '/' :: body))
    (token : ∀ offset c cs token used rest, isBlank c = false → startsComment c cs = false →
      read c cs = .token token used rest → c :: cs = used ++ rest → Written token used →
      motive (offset + width used) rest → motive offset (c :: cs))
    (unclosed : ∀ offset c cs kind, read c cs = .unclosed kind → Unending kind (c :: cs) → motive offset (c :: cs))
    (offset : Nat) (cs : List Char) : motive offset cs := by
  induction length : cs.length using Nat.strongRecOn generalizing offset cs with
  | ind count ih =>
    cases cs with
    | nil => exact nil offset
    | cons c cs =>
      have shorter (offset : Nat) (rest : List Char) (le : rest.length ≤ cs.length) : motive offset rest :=
        ih rest.length (by simp only [List.length_cons] at length; omega) offset rest rfl
      by_cases white : isBlank c = true
      · exact blank offset c cs white (shorter _ cs (Nat.le_refl _))
      by_cases starts : startsComment c cs = true
      · obtain ⟨rfl, body, rfl⟩ : c = '/' ∧ ∃ body, cs = '/' :: body := by
          simpa only [startsComment, Bool.and_eq_true, beq_iff_eq, List.head?_eq_some_iff] using starts
        cases found : cutAt? '\n' body with
        | none => exact openComment offset body (not_mem_of_cutAt? found)
        | some parts =>
          obtain ⟨line, rest⟩ := parts
          obtain ⟨rfl, inside⟩ := of_cutAt? found
          exact comment offset line rest inside (shorter _ rest (by simp; omega))
      have solid := Bool.eq_false_iff.mpr white
      have plain := Bool.eq_false_iff.mpr starts
      have explained := explains_read solid plain
      cases reading : read c cs with
      | gap used rest =>
        rw [reading] at explained
        exact explained.elim
      | token read used rest =>
        have le : rest.length ≤ cs.length := length_rest_le (by rw [reading]; rfl)
        rw [reading] at explained
        exact token offset c cs read used rest solid plain reading explained.1 explained.2 (shorter _ rest le)
      | unclosed kind =>
        rw [reading] at explained
        exact unclosed offset c cs kind reading explained

end Scan
end RouteDoc
