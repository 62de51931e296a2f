import RouteDoc.Proofs.ScannedWords

/-! Where a quoted string ends. The scanner takes a backslash and the character after it together; seen from the
quote, this means that the backslashes directly before it pair up. In a body that is spelled out, the backslashes
pair up at its end and before none of its quotes, so the two agree on the first quote that closes anything. -/

namespace RouteDoc
open Text Spelling

/-- The number of backslashes at the end of a text. -/
def Text.backslashes (cs : List Char) : Nat := (cs.reverse.takeWhile (· = '\\')).length

namespace Text
variable {cs : List Char}

@[simp] theorem backslashes_nil : backslashes [] = 0 := rfl

@[simp] theorem backslashes_concat_backslash (cs : List Char) : backslashes (cs ++ ['\\']) = backslashes cs + 1 := by
  simp [backslashes]

theorem backslashes_concat {c : Char} (solid : c ≠ '\\') (cs : List Char) : backslashes (cs ++ [c]) = 0 := by
  simp [backslashes, solid]

/-- A backslash and any character after it leave paired backslashes paired. -/
theorem backslashes_escaped (paired : backslashes cs % 2 = 0) (c : Char) : backslashes (cs ++ ['\\', c]) % 2 = 0 := by
  rw [← List.singleton_append, ← List.append_assoc]
  by_cases same : c = '\\'
  · rw [same, backslashes_concat_backslash, backslashes_concat_backslash]
    omega
  · rw [backslashes_concat same]

end Text

namespace Spelling
variable {quote : Char} {cs body text rest : List Char}

/-- The body and the rest of a text that follows an opening quote, cut at the first quote with paired backslashes
before it. -/
structure Closes (quote : Char) (cs body rest : List Char) : Prop where
  whole : cs = body ++ quote :: rest
  paired : backslashes body % 2 = 0
  first : ∀ before after, cs = before ++ quote :: after → backslashes before % 2 = 0 → body.length ≤ before.length

theorem Closes.unique {other after : List Char} (closes : Closes quote cs body rest)
    (again : Closes quote cs other after) : body = other ∧ rest = after := by
  have long := closes.first other after again.whole again.paired
  have short := again.first body rest closes.whole closes.paired
  obtain ⟨same, ended⟩ := List.append_inj (closes.whole.symm.trans again.whole) (by omega)
  exact ⟨same, (List.cons.inj ended).2⟩

namespace Body

/-- The backslashes at the end of a body pair up, whatever pairs up before it. -/
theorem paired (spelled : Body quote body text) (front : List Char) (pairs : backslashes front % 2 = 0) :
    backslashes (front ++ body) % 2 = 0 := by
  induction spelled generalizing front with
  | nil => rwa [List.append_nil]
  | @plain c body _ _ solid _ ih =>
    rw [← List.singleton_append, ← List.append_assoc]
    exact ih _ (by rw [backslashes_concat solid])
  | @escaped c body _ _ ih =>
    change backslashes (front ++ (['\\', c] ++ body)) % 2 = 0
    rw [← List.append_assoc]
    exact ih _ (backslashes_escaped pairs c)

/-- Inside of a body the backslashes before a quote do not pair up: the last of them escapes the quote. -/
theorem unpaired (spelled : Body quote body text) (proper : quote ≠ '\\') {before after : List Char}
    (front : List Char) (pairs : backslashes front % 2 = 0) (inside : body = before ++ quote :: after) :
    backslashes (front ++ before) % 2 = 1 := by
  induction spelled generalizing front before with
  | nil => simp at inside
  | @plain c body _ other solid _ ih =>
    cases before with
    | nil => exact absurd (List.cons.inj inside).1 other
    | cons d before =>
      obtain ⟨rfl, later⟩ := List.cons.inj inside
      have odd := ih (front ++ [c]) (by rw [backslashes_concat solid]) later
      rwa [List.append_assoc] at odd
  | @escaped c body _ _ ih =>
    match before, inside with
    | [], inside => exact absurd (List.cons.inj inside).1.symm proper
    | [d], inside =>
      rw [← (List.cons.inj inside).1, backslashes_concat_backslash]
      omega
    | d :: e :: before, inside =>
      obtain ⟨same, inside⟩ := List.cons.inj inside
      obtain ⟨rfl, later⟩ := List.cons.inj inside
      have odd := ih _ (backslashes_escaped pairs c) later
      rw [List.append_assoc] at odd
      rwa [← same]

/-- A text is the body of a string where it is cut, if what stands there is a quote. -/
theorem closes (spelled : Body quote body text) (proper : quote ≠ '\\') (rest : List Char) :
    Closes quote (body ++ quote :: rest) body rest := by
  refine ⟨rfl, spelled.paired [] rfl, ?_⟩
  intro before after whole pairs
  refine Nat.le_of_not_lt fun shorter => ?_
  obtain ⟨inner, inside⟩ : ∃ inner, body = before ++ quote :: inner := by
    rcases List.append_eq_append_iff.mp whole with ⟨more, same, _⟩ | ⟨more, same, cut⟩
    · rw [same, List.length_append] at shorter
      omega
    · cases more with
      | nil => simp [same] at shorter
      | cons d more =>
        obtain ⟨rfl, _⟩ := List.cons.inj cut
        exact ⟨more, same⟩
  have odd := spelled.unpaired proper [] rfl inside
  rw [List.nil_append] at odd
  omega

/-- A text in which the scanner finds no end is all body, with a lone backslash after it or not. -/
theorem of_untilQuote_none (unclosed : Scan.untilQuote quote cs = none) :
    ∃ body text, Body quote body text ∧ (cs = body ∨ cs = body ++ ['\\']) := by
  fun_induction Scan.untilQuote quote cs with
  | case1 => exact ⟨[], [], .nil, .inl rfl⟩
  | case2 => exact ⟨[], [], .nil, .inr rfl⟩
  | case3 escaped cs ih =>
    obtain ⟨body, text, spelled, same⟩ := ih (Option.map_eq_none_iff.mp unclosed)
    exact ⟨_, _, .escaped spelled, same.imp (congrArg ('\\' :: escaped :: ·)) (congrArg ('\\' :: escaped :: ·))⟩
  | case4 => cases unclosed
  | case5 c cs lone paired other ih =>
    obtain ⟨body, text, spelled, same⟩ := ih (Option.map_eq_none_iff.mp unclosed)
    have solid : c ≠ '\\' := by
      rintro rfl
      cases cs with
      | nil => exact lone rfl rfl
      | cons escaped more => exact paired escaped more rfl rfl
    exact ⟨_, _, .plain other solid spelled, same.imp (congrArg (c :: ·)) (congrArg (c :: ·))⟩

end Body

/-- The scanner cuts a text where its quote closes. -/
theorem untilQuote_eq_some_iff (proper : quote ≠ '\\') :
    Scan.untilQuote quote cs = some (body, rest) ↔ Closes quote cs body rest := by
  have sound {body rest : List Char} (found : Scan.untilQuote quote cs = some (body, rest)) :
      Closes quote cs body rest := by
    obtain ⟨rfl, spelled⟩ := Body.of_untilQuote found
    exact spelled.closes proper rest
  refine ⟨sound, fun closes => ?_⟩
  cases found : Scan.untilQuote quote cs with
  | none =>
    obtain ⟨whole, text, spelled, same⟩ := Body.of_untilQuote_none found
    have inside : ∃ after, whole = body ++ quote :: after := by
      rcases same with same | same
      · exact ⟨rest, same.symm.trans closes.whole⟩
      · have ended := same.symm.trans closes.whole
        rcases List.eq_nil_or_concat rest with rfl | ⟨after, last, rfl⟩
        · exact absurd (List.cons.inj (List.append_inj_right' ended rfl)).1.symm proper
        · rw [List.concat_eq_append, ← List.cons_append, ← List.append_assoc] at ended
          exact ⟨after, List.append_inj_left' ended rfl⟩
    obtain ⟨after, inside⟩ := inside
    have odd := spelled.unpaired proper [] rfl inside
    rw [List.nil_append, closes.paired] at odd
    cases odd
  | some cut =>
    obtain ⟨rfl, rfl⟩ := (sound found).unique closes
    rfl

end Spelling

/-- Wherever a scan comes to a quote, the string ends at the first quote of that kind with paired backslashes before
it: its text is the body without the backslash before each escaped character, and the scan goes on right after it.
Without such a quote the scan fails there, and nothing of what follows is read. Whatever text is spelled out between
two quotes is the text of the string. -/
theorem ofText_quoted {source : String} {earlier : List Lexeme} {offset : Nat} {quote : Char} {cs : List Char}
    (reaches : Scan.Reaches source earlier offset (quote :: cs)) (quoted : quote = '\x22' ∨ quote = '\x27') :
    (∀ body rest, Closes quote cs body rest → ∃ text, Body quote body text ∧
      Scan.Takes source earlier offset (.string (String.ofList text)) (quote :: (body ++ [quote])) rest) ∧
    ((∀ body rest, cs = body ++ quote :: rest → backslashes body % 2 = 1) →
      Scan.ofText source = ⟨earlier, some ⟨.string, offset⟩⟩ ∧
        tokenize source = .error (.unclosed .string ((LineMap.ofText source).position offset))) ∧
    (∀ body text rest, cs = body ++ quote :: rest → Body quote body text →
      Scan.Takes source earlier offset (.string (String.ofList text)) (quote :: (body ++ [quote])) rest) := by
  have proper : quote ≠ '\\' := by obtain rfl | rfl := quoted <;> decide
  have spelledOut {body text rest : List Char} (whole : cs = body ++ quote :: rest) (spelled : Body quote body text) :
      Scan.Takes source earlier offset (.string (String.ofList text)) (quote :: (body ++ [quote])) rest := by
    subst whole
    exact reaches.takes (Scan.read_quotes quoted spelled rest)
  refine ⟨?_, ?_, fun _ _ _ => spelledOut⟩
  · intro body rest closes
    obtain ⟨whole, spelled⟩ := Body.of_untilQuote ((untilQuote_eq_some_iff proper).mpr closes)
    exact ⟨Scan.unescape body, spelled, spelledOut whole spelled⟩
  · intro odd
    have unclosed : Scan.untilQuote quote cs = none := by
      cases found : Scan.untilQuote quote cs with
      | none => rfl
      | some cut =>
        have closes := (untilQuote_eq_some_iff proper).mp found
        have unpaired := odd _ _ closes.whole
        rw [closes.paired] at unpaired
        cases unpaired
    have reading : Scan.read quote cs = .unclosed .string := by
      rw [Scan.read_quote quoted, Scan.readQuoted, unclosed]
    have scanned : Scan.ofText source = ⟨earlier, some ⟨.string, offset⟩⟩ := by
      rw [reaches.ofText_eq, Scan.ofChars_of_unclosed reading, List.append_nil]
    exact ⟨scanned, by simp [tokenize, scanned, Unclosed.error]⟩

/-- A string that ends at its second quote, after two backslashes, and directly after it one that ends in a lone
backslash. -/
theorem ofText_quoted_twice :
    let source := "'\\'\\\\'\"\\"
    let body := ['\\', '\x27', '\\', '\\']
    Scan.Reaches source [] 0 ('\x27' :: (body ++ '\x27' :: ['\x22', '\\'])) ∧
      Closes '\x27' (body ++ '\x27' :: ['\x22', '\\']) body ['\x22', '\\'] ∧
      Scan.Takes source [] 0 (.string "'\\") ('\x27' :: (body ++ ['\x27'])) ['\x22', '\\'] ∧
      Scan.ofText source = ⟨[⟨.string "'\\", 0, 6⟩], some ⟨.string, 6⟩⟩ := by
  intro source body
  have reaches := @Scan.Reaches.start source
  rw [show source.toList = '\x27' :: (body ++ '\x27' :: ['\x22', '\\']) by decide] at reaches
  have spelled : Body '\x27' body ['\x27', '\\'] := .escaped (.escaped .nil)
  obtain ⟨_, _, takes⟩ := ofText_quoted reaches (.inr rfl)
  have first := takes body _ ['\x22', '\\'] rfl spelled
  have unclosed : ∀ before after, ['\\'] = before ++ '\x22' :: after → backslashes before % 2 = 1 := by
    intro before after whole
    have inside : '\x22' ∈ ['\\'] := by simp [whole]
    exact absurd inside (by decide)
  obtain ⟨scanned, _⟩ := (ofText_quoted first.goesOn (.inl rfl)).2.1 unclosed
  exact ⟨reaches, spelled.closes (by decide) _, first, scanned⟩

end RouteDoc
