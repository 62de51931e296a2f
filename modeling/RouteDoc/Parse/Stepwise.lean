import RouteDoc.Parse

/-!
Reading a source one token at a time. Each token is handed over before the next one is looked for, so nothing behind
a token that is refused is ever read.
-/

namespace RouteDoc

open Text

/-- What is left to read of a source: the characters from byte `offset` on. -/
structure Remainder where
  offset : Nat
  left : List Char
  deriving DecidableEq, Repr

namespace Remainder

/-- A whole source. -/
def ofText (source : String) : Remainder := ⟨0, source.toList⟩

/-- The next token, or else the delimiter that is never closed, and what is left after it. Behind such a delimiter
nothing is left. -/
def next? (remainder : Remainder) : Option (Except Unclosed Lexeme × Remainder) :=
  match remainder with
  | ⟨_, []⟩ => none
  | ⟨offset, c :: cs⟩ =>
    match _reading : Scan.read c cs with
    | .gap used rest => next? ⟨offset + width used, rest⟩
    | .token token used rest =>
      let stop := offset + width used
      some (.ok ⟨token, offset, stop⟩, ⟨stop, rest⟩)
    | .unclosed kind => some (.error ⟨kind, offset⟩, ⟨offset, []⟩)
termination_by remainder.left.length
decreasing_by
  have : (Scan.read c cs).rest? = some rest := by simp [_reading, Scan.Reading.rest?]
  have := Scan.length_rest_le this
  simp only [List.length_cons]
  omega

theorem next?_nil (offset : Nat) : next? ⟨offset, []⟩ = none := by
  rw [next?.eq_def]

section
variable {c : Char} {cs used rest : List Char}

theorem next?_of_gap (reading : Scan.read c cs = .gap used rest) (offset : Nat) :
    next? ⟨offset, c :: cs⟩ = next? ⟨offset + width used, rest⟩ := by
  rw [next?.eq_def]
  simp only
  split <;> simp_all

theorem next?_of_token {token : Token} (reading : Scan.read c cs = .token token used rest) (offset : Nat) :
    next? ⟨offset, c :: cs⟩ =
      some (.ok ⟨token, offset, offset + width used⟩, ⟨offset + width used, rest⟩) := by
  rw [next?.eq_def]
  simp only
  split <;> simp_all

theorem next?_of_unclosed {kind : Delimited} (reading : Scan.read c cs = .unclosed kind) (offset : Nat) :
    next? ⟨offset, c :: cs⟩ = some (.error ⟨kind, offset⟩, ⟨offset, []⟩) := by
  rw [next?.eq_def]
  simp only
  split <;> simp_all

end

/-- Every item takes something of what is left. -/
theorem length_next? {remainder later : Remainder} {item : Except Unclosed Lexeme}
    (taken : remainder.next? = some (item, later)) : later.left.length < remainder.left.length := by
  fun_induction next? remainder with
  | case1 => cases taken
  | case2 offset c cs used rest reading ih =>
    have shorter := Scan.length_rest_le (by rw [reading]; rfl : (Scan.read c cs).rest? = some rest)
    have := ih taken
    simp only [List.length_cons] at this ⊢
    omega
  | case3 offset c cs token used rest reading stop =>
    have shorter := Scan.length_rest_le (by rw [reading]; rfl : (Scan.read c cs).rest? = some rest)
    cases taken
    exact Nat.lt_succ_of_le shorter
  | case4 offset c cs kind reading =>
    cases taken
    exact Nat.zero_lt_succ _

end Remainder

/-- Reads on and feeds the tokens as they come. The first failure is the outcome. -/
def Builder.readOn (lineMap : LineMap) (builder : Builder) (remainder : Remainder) : Except ParseError Document :=
  match _taken : remainder.next? with
  | none => builder.finish.mapError .grammar
  | some (.error unclosed, _) => .error (.scan (unclosed.error lineMap))
  | some (.ok lexeme, later) =>
    match builder.feed lexeme.token (lineMap.position lexeme.start) with
    | .error error => .error (.grammar error)
    | .ok next => next.readOn lineMap later
termination_by remainder.left.length
decreasing_by exact Remainder.length_next? _taken

namespace Builder
variable {lineMap : LineMap} {remainder later : Remainder}

theorem readOn_end (none : remainder.next? = none) (builder : Builder) :
    builder.readOn lineMap remainder = builder.finish.mapError .grammar := by
  rw [readOn]
  split <;> simp_all

theorem readOn_unclosed {unclosed : Unclosed} (taken : remainder.next? = some (.error unclosed, later))
    (builder : Builder) : builder.readOn lineMap remainder = .error (.scan (unclosed.error lineMap)) := by
  rw [readOn]
  split <;> simp_all

theorem readOn_token {lexeme : Lexeme} (taken : remainder.next? = some (.ok lexeme, later)) (builder : Builder) :
    builder.readOn lineMap remainder =
      match builder.feed lexeme.token (lineMap.position lexeme.start) with
      | .error error => .error (.grammar error)
      | .ok next => next.readOn lineMap later := by
  rw [readOn]
  split <;> simp_all

end Builder

/-- The document of a source that is read one token at a time. -/
def parseStepwise (source label : String) (dialect : Dialect) : Except ParseError Document :=
  (Builder.new label dialect).readOn (.ofText source) (.ofText source)

end RouteDoc
