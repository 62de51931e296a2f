import RouteDoc.Proofs.BuilderRefusals

/-! What the tokens that were fed tell about open parts. The latest command word tells which command is open, and the
latest `USING` after it which binding; a part lacks its value as long as no value came right after its word. -/

namespace RouteDoc

/-- The modes whose words open a command or end one. -/
abbrev commandModes : List Mode := [.route, .includes, .handler]

/-- Whether a token is a keyword that ends parts. -/
def Token.Ends (dialect : Dialect) (token : Token) : Prop :=
  ∃ mode, token.mode? dialect = some mode ∧ (mode ∈ commandModes ∨ mode = .param)

/-! What was fed. -/

namespace History

section
variable (dialect : Dialect)

/-- The latest keyword that switched to one of some modes, its place, and what was fed after it. -/
def since? (modes : List Mode) : List (Token × Position) → Option (Mode × Position × List (Token × Position))
  | [] => none
  | (token, place) :: rest =>
    (since? modes rest).or (((token.mode? dialect).filter (· ∈ modes)).map fun mode => (mode, place, rest))

/-- Whether no value comes first. -/
def bare : List (Token × Position) → Bool
  | [] => true
  | (token, _) :: _ => (token.mode? dialect).isSome

/-- What a part lacks whose word stood at a place, given what was fed after it. -/
def lacking? (fault : Fault) (keyword : Keyword) (place : Position) (after : List (Token × Position)) :
    Option Unfinished :=
  if bare dialect after then some ⟨fault, keyword, place⟩ else none

/-- The innermost part that is unfinished: the latest binding of the current command, and else the command. -/
def unfinished? (fed : List (Token × Position)) : Option Unfinished :=
  match since? dialect commandModes fed with
  | some (.includes, place, after) => lacking? dialect .missingName .includesWord place after
  | some (.handler, place, after) =>
    ((since? dialect [.param] after).bind fun (_, opened, rest) =>
      lacking? dialect .missingName .usingWord opened rest).or
      (lacking? dialect .missingHandler .doesWord place after)
  | _ => none

/-- Whether no keyword was fed. -/
def Valued (fed : List (Token × Position)) : Prop := ∀ item ∈ fed, item.1.mode? dialect = none

end

section
variable {dialect : Dialect} {modes : List Mode} {mode : Mode} {fed : List (Token × Position)} {token : Token}
  {place : Position}

theorem since?_snoc_of_mem (entered : token.mode? dialect = some mode) (member : mode ∈ modes) :
    since? dialect modes (fed ++ [(token, place)]) = some (mode, place, []) := by
  induction fed with
  | nil => simp [since?, entered, member]
  | cons first rest ih =>
    rw [List.cons_append, since?, ih]
    rfl

theorem since?_snoc_of_not (passed : ∀ mode ∈ token.mode? dialect, mode ∉ modes) :
    since? dialect modes (fed ++ [(token, place)]) =
      (since? dialect modes fed).map fun found => (found.1, found.2.1, found.2.2 ++ [(token, place)]) := by
  have none : (token.mode? dialect).filter (· ∈ modes) = none := by
    rw [Option.filter_eq_none_iff]
    simpa using passed
  induction fed with
  | nil => simp [since?, none]
  | cons first rest ih =>
    rw [List.cons_append, since?, ih, since?]
    cases since? dialect modes rest with
    | some => rfl
    | none => cases first.1.mode? dialect <;> simp [Option.filter]

theorem ne_nil_of_since? {found : Mode × Position × List (Token × Position)}
    (known : since? dialect modes fed = some found) : fed ≠ [] := by
  rintro rfl
  cases known

theorem bare_snoc_of_ne_nil (filled : fed ≠ []) : bare dialect (fed ++ [(token, place)]) = bare dialect fed := by
  cases fed with
  | nil => exact absurd rfl filled
  | cons first rest => rfl

theorem bare_snoc_keyword (entered : token.mode? dialect = some mode) :
    bare dialect (fed ++ [(token, place)]) = bare dialect fed := by
  cases fed with
  | nil => simp [bare, entered]
  | cons first rest => rfl

theorem Valued.nil : Valued dialect [] := List.forall_mem_nil _

theorem Valued.bare_snoc (valued : Valued dialect fed) (value : token.mode? dialect = none) :
    bare dialect (fed ++ [(token, place)]) = false := by
  cases fed with
  | nil => simp [bare, value]
  | cons first rest => simp [bare, valued first List.mem_cons_self]

theorem Valued.snoc (valued : Valued dialect fed) (value : token.mode? dialect = none) :
    Valued dialect (fed ++ [(token, place)]) := by
  intro item member
  rcases List.mem_append.mp member with earlier | latest
  · exact valued item earlier
  · obtain rfl := List.mem_singleton.mp latest
    exact value

theorem Valued.since?_eq_none (valued : Valued dialect fed) : since? dialect modes fed = none := by
  induction fed with
  | nil => rfl
  | cons first rest ih =>
    obtain ⟨value, valued⟩ := List.forall_mem_cons.mp valued
    rw [since?, ih valued, value]
    rfl

theorem lacking_of_lacking? {fault : Fault} {keyword : Keyword} {part : Unfinished}
    (lacks : fault = .missingHandler ∨ fault = .missingName)
    (found : lacking? dialect fault keyword place fed = some part) : part.Lacking := by
  unfold lacking? at found
  split at found
  · obtain rfl := Option.some.inj found
    exact lacks
  · cases found

theorem lacking_of_unfinished? {part : Unfinished} (found : unfinished? dialect fed = some part) : part.Lacking := by
  unfold unfinished? at found
  split at found
  · exact lacking_of_lacking? (.inr rfl) found
  · rcases Option.or_eq_some_iff.mp found with binding | ⟨_, command⟩
    · obtain ⟨_, _, lacks⟩ := Option.bind_eq_some_iff.mp binding
      exact lacking_of_lacking? (.inr rfl) lacks
    · exact lacking_of_lacking? (.inl rfl) command
  · cases found

end

/-! One open part. Its word is the latest of some, and it has its value exactly if a value came right after the word. -/

structure Told (dialect : Dialect) (modes : List Mode) (fed : List (Token × Position)) (mode : Mode)
    (openedAt : Position) (value : Option Value) (after : List (Token × Position)) : Prop where
  since : since? dialect modes fed = some (mode, openedAt, after)
  value : value = none ↔ bare dialect after = true

namespace Told
variable {dialect : Dialect} {modes : List Mode} {mode : Mode} {fed after : List (Token × Position)} {token : Token}
  {place openedAt : Position} {value : Option Value}

theorem opened (entered : token.mode? dialect = some mode) (member : mode ∈ modes) :
    Told dialect modes (fed ++ [(token, place)]) mode place none [] :=
  ⟨since?_snoc_of_mem entered member, fun _ => rfl, fun _ => rfl⟩

/-- A keyword that opens another part. -/
theorem keyword {entered : Mode} (told : Told dialect modes fed mode openedAt value after)
    (enters : token.mode? dialect = some entered) (passed : entered ∉ modes) :
    Told dialect modes (fed ++ [(token, place)]) mode openedAt value (after ++ [(token, place)]) := by
  refine ⟨?_, ?_⟩
  · rw [since?_snoc_of_not (by simpa [enters] using passed), told.since]
    rfl
  · rw [bare_snoc_keyword enters]
    exact told.value

theorem fed_value (told : Told dialect modes fed mode openedAt value after) (valued : token.mode? dialect = none) :
    since? dialect modes (fed ++ [(token, place)]) = some (mode, openedAt, after ++ [(token, place)]) := by
  rw [since?_snoc_of_not (by simp [valued]), told.since]
  rfl

/-- A value of the part itself. -/
theorem filled {later : Option Value} (told : Told dialect modes fed mode openedAt value after)
    (valued : token.mode? dialect = none) (before : Valued dialect after) (given : later ≠ none) :
    Told dialect modes (fed ++ [(token, place)]) mode openedAt later (after ++ [(token, place)]) :=
  ⟨told.fed_value valued, by simp [before.bare_snoc valued, given]⟩

/-- A value of another part. -/
theorem passed (told : Told dialect modes fed mode openedAt value after) (valued : token.mode? dialect = none)
    (later : after ≠ []) :
    Told dialect modes (fed ++ [(token, place)]) mode openedAt value (after ++ [(token, place)]) := by
  refine ⟨told.fed_value valued, ?_⟩
  rw [bare_snoc_of_ne_nil later]
  exact told.value

theorem lacking (told : Told dialect modes fed mode openedAt none after) (fault : Fault) (keyword : Keyword) :
    lacking? dialect fault keyword openedAt after = some ⟨fault, keyword, openedAt⟩ :=
  if_pos (told.value.mp rfl)

theorem complete {text : Value} (told : Told dialect modes fed mode openedAt (some text) after) (fault : Fault)
    (keyword : Keyword) : lacking? dialect fault keyword openedAt after = none :=
  if_neg fun lacks => nomatch told.value.mpr lacks

end Told
end History

end RouteDoc
