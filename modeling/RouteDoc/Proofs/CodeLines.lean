import RouteDoc.Proofs.GeneratedStrings
import RouteDoc.Proofs.TextPieces

/-! The lines of generated code. A quoted text holds no line feed, so a call stays on its line as long as the literals
in it do; it starts with no space, which tells its indentation, and ends with a closing parenthesis. -/

namespace RouteDoc.Registration
open Text

theorem toList_separated {α : Type} (code : α → String) (separator : String) (first : α) (others : List α) :
    (separated separator ((first :: others).map code)).toList =
      (code first).toList ++ others.flatMap fun other => (separator ++ code other).toList := by
  induction others generalizing first with
  | nil => simp [separated]
  | cons other others ih =>
    have rest := ih other
    simp only [List.map_cons, separated, String.toList_append, List.flatMap_cons, List.append_assoc] at rest ⊢
    rw [rest]

/-! Calls. -/

/-- Code that stays on its line and ends with a closing parenthesis, if there is any. -/
structure Fragment (cs : List Char) : Prop where
  unbroken : '\n' ∉ cs
  closed : ∀ c ∈ cs.getLast?, c = ')'

theorem Fragment.append {first second : List Char} (before : Fragment first) (after : Fragment second) :
    Fragment (first ++ second) := by
  refine ⟨?_, ?_⟩
  · rw [List.mem_append]
    exact not_or.mpr ⟨before.unbroken, after.unbroken⟩
  · intro c last
    rw [List.getLast?_append, Option.mem_def, Option.or_eq_some_iff] at last
    obtain last | ⟨_, last⟩ := last
    · exact after.closed c last
    · exact before.closed c last

theorem Fragment.flatMap {α : Type} {items : List α} {code : α → List Char}
    (each : ∀ item ∈ items, Fragment (code item)) : Fragment (items.flatMap code) := by
  induction items with
  | nil => exact ⟨List.not_mem_nil, nofun⟩
  | cons item items ih =>
    obtain ⟨first, others⟩ := List.forall_mem_cons.mp each
    exact first.append (ih others)

/-- The text of a line: a fragment that cannot be taken for more of its indentation. -/
structure Line (text : String) : Prop where
  fragment : Fragment text.toList
  starts : ∃ c rest, text.toList = c :: rest ∧ c ≠ ' '

theorem fragment_call {code : String} (unbroken : '\n' ∉ code.toList) : Fragment (code ++ ")").toList := by
  refine ⟨?_, ?_⟩
  · simp [unbroken]
  · intro c last
    rw [String.toList_append] at last
    simpa using last.symm

/-- A value that is no literal with a line feed in it. -/
def Unbroken (value : Value) : Prop := value.isLiteral = true → '\n' ∉ value.text.toList

theorem unbroken_code {value : Value} (unbroken : Unbroken value) : '\n' ∉ value.code.toList := by
  cases value with
  | literal text => exact unbroken rfl
  | string text => exact unbroken_quoted text

theorem unbroken_codeOrEmpty {value : Option Value} (unbroken : ∀ given ∈ value, Unbroken given) :
    '\n' ∉ (codeOrEmpty value).toList := by
  cases value with
  | none => decide
  | some given => exact unbroken_code (unbroken given rfl)

theorem line_usingCall {param : Param} (unbroken : ∀ value ∈ param.values, Unbroken value) : Line (usingCall param) := by
  have named : Fragment (".using(" ++ param.name.code ++ ")").toList := by
    apply fragment_call
    simp [unbroken_code (unbroken param.name List.mem_cons_self)]
  have defaulted : Fragment (defaultCall param.default).toList := by
    cases given : param.default with
    | none => exact ⟨by decide, by simp [defaultCall]⟩
    | some value =>
      have held : Unbroken value := unbroken value (Param.mem_values_of_default given)
      apply fragment_call
      simp [unbroken_code held]
  have sourced : Fragment (param.sources.flatMap fun source => (sourceCall source).toList) := by
    apply Fragment.flatMap
    intro source member
    have held : Unbroken source := unbroken source (by simp [Param.values, member])
    apply fragment_call
    simp [unbroken_code held]
  refine ⟨?_, by simp [usingCall]⟩
  rw [usingCall, String.toList_append, toList_concat, String.toList_append]
  exact (named.append defaulted).append sourced

theorem line_includesCall {name : Value} (unbroken : Unbroken name) : Line (includesCall name) := by
  refine ⟨?_, by simp [includesCall]⟩
  apply fragment_call
  simp [unbroken_code unbroken]

theorem line_doesCall {invocation : Invoke} (handler : Unbroken invocation.handler)
    (name : ∀ given ∈ invocation.name, Unbroken given) : Line (doesCall invocation) := by
  refine ⟨?_, by simp [doesCall]⟩
  apply fragment_call
  simp [unbroken_code handler, unbroken_codeOrEmpty name]

theorem line_commandLines {command : Command} (unbroken : ∀ value ∈ command.values, Unbroken value) :
    ∀ line ∈ commandLines command, Line line.2 := by
  cases command with
  | includes name => exact List.forall_mem_singleton.mpr (line_includesCall (unbroken name List.mem_cons_self))
  | invoke invocation =>
    refine List.forall_mem_cons.mpr ⟨?_, ?_⟩
    · apply line_doesCall (unbroken _ List.mem_cons_self)
      intro name given
      exact unbroken name (by simp [Command.values, Option.mem_def.mp given])
    · intro line member
      obtain ⟨param, inside, rfl⟩ := List.mem_map.mp member
      apply line_usingCall
      intro value held
      exact unbroken value (Command.mem_values_of_param inside held)

theorem line_routeLines {route : Route} (unbroken : ∀ value ∈ route.values, Unbroken value) :
    ∀ line ∈ routeLines route, Line line.2 := by
  refine List.forall_mem_cons.mpr ⟨?_, ?_⟩
  · have named : ∀ given ∈ route.name, Unbroken given := by
      intro name given
      exact unbroken name (by simp [Route.values, Option.mem_def.mp given])
    have described : ∀ given ∈ route.description, Unbroken given := by
      intro description given
      exact unbroken description (by simp [Route.values, Option.mem_def.mp given])
    refine ⟨?_, by simp⟩
    apply fragment_call
    simp [unbroken_codeOrEmpty named, unbroken_codeOrEmpty described]
  · intro line member
    obtain ⟨command, inside, held⟩ := List.mem_flatMap.mp member
    refine line_commandLines ?_ line held
    intro value among
    exact unbroken value (Route.mem_values_of_command inside among)

/-! Statements. -/

/-- The text of a line of a statement, given the lines after it. -/
def closing (text : String) (rest : List (Nat × String)) : String := if rest.isEmpty then text ++ ";" else text

theorem statement_cons (depth : Nat) (text : String) (rest : List (Nat × String)) :
    statement ((depth, text) :: rest) = line depth (closing text rest) ++ statement rest := by
  cases rest with
  | nil => exact (String.append_empty).symm
  | cons => rfl

/-- A line without its line feed. -/
def row (depth : Nat) (text : String) : List Char := List.replicate (4 * depth) ' ' ++ text.toList

/-- The rows of a statement. -/
def statementRows : List (Nat × String) → List (List Char)
  | [] => []
  | (depth, text) :: rest => row depth (closing text rest) :: statementRows rest

theorem toList_line (depth : Nat) (text : String) : (line depth text).toList = row depth text ++ ['\n'] := by
  simp [line, row]

theorem toList_statement (lines : List (Nat × String)) :
    (statement lines).toList = (statementRows lines).flatMap (· ++ ['\n']) := by
  induction lines with
  | nil => rfl
  | cons placed lines ih =>
    obtain ⟨depth, text⟩ := placed
    rw [statement_cons, String.toList_append, toList_line, ih, statementRows, List.flatMap_cons]

theorem unbroken_row {text : String} (unbroken : '\n' ∉ text.toList) (depth : Nat) : '\n' ∉ row depth text := by
  simp [row, unbroken]

theorem unbroken_statementRows {lines : List (Nat × String)} (each : ∀ line ∈ lines, Line line.2) :
    ∀ row ∈ statementRows lines, '\n' ∉ row := by
  induction lines with
  | nil => exact List.forall_mem_nil _
  | cons placed lines ih =>
    obtain ⟨depth, text⟩ := placed
    obtain ⟨first, later⟩ := List.forall_mem_cons.mp each
    refine List.forall_mem_cons.mpr ⟨unbroken_row ?_ depth, ih later⟩
    cases lines with
    | nil => simp [closing, first.fragment.unbroken]
    | cons => exact first.fragment.unbroken

end RouteDoc.Registration
