import RouteDoc.Document.Profile
import RouteDoc.Proofs.CodeRecovery
import RouteDoc.Proofs.GuardedLookups
import RouteDoc.Proofs.PrintedDocuments
import RouteDoc.Proofs.RegularParts

/-! A profile is met by one document only. A check may see less than the part that it is about: an import is
compared by its code, and sources by their texts. In a regular document the kind of each value is settled by its
place, so nothing is lost. -/

namespace RouteDoc
open Text

/-! Strings are known by their texts and by their codes. -/

theorem Value.string_text {value : Value} (string : value.isLiteral = false) : Value.string value.text = value := by
  cases value with
  | literal => cases string
  | string => rfl

theorem Value.texts_inj {values others : List Value} (strings : ∀ value ∈ values, value.isLiteral = false)
    (more : ∀ value ∈ others, value.isLiteral = false) : others.map text = values.map text ↔ others = values := by
  have restore {values : List Value} (strings : ∀ value ∈ values, value.isLiteral = false) :
      (values.map text).map Value.string = values := by
    rw [List.map_map]
    exact (List.map_congr_left fun value member => string_text (strings value member)).trans (List.map_id' values)
  constructor
  · intro same
    rw [← restore strings, ← restore more, same]
  · rintro rfl
    rfl

theorem Value.code_inj {value other : Value} (string : value.isLiteral = false) (more : other.isLiteral = false) :
    other.code = value.code ↔ other = value := by
  constructor
  · intro same
    exact (Registration.recovers_string more string trivial trivial (congrArg (·.toList ++ []) same)).1
  · rintro rfl
    rfl

namespace Check
variable {α β : Type} {context what : String}

/-! What it takes for checks to pass. -/

theorem sequence_passes {run : α → Report} {checks : List α} :
    (sequence run checks).failure = none ↔ ∀ check ∈ checks, (run check).failure = none := by
  induction checks with
  | nil => exact ⟨fun _ => nofun, fun _ => rfl⟩
  | cons check rest ih =>
    rw [List.forall_mem_cons, ← ih, sequence]
    match run check with
    | ⟨_, none⟩ => simp
    | ⟨_, some _⟩ => simp

@[simp] theorem verdict_passes {mismatch : Option Mismatch} :
    (verdict context mismatch).failure = none ↔ mismatch = none := by
  cases mismatch with
  | none => simp [verdict]
  | some => simp [verdict]

theorem onPart_passes {parts : List α} {index : Nat} {run : String → α → Report} :
    (onPart context what parts index run).failure = none ↔
      ∃ part, parts[index]? = some part ∧ (run (within context what index) part).failure = none := by
  unfold onPart
  cases parts[index]? with
  | none => simp
  | some part => simp [enclosing_failure]

@[simp] theorem expectString_passes {actual : Option Value} {expected : String} :
    expectString what actual expected = none ↔ actual = some (.string expected) := by
  simp [expectString]

@[simp] theorem expectLiteral_passes {actual : Option Value} {expected : String} :
    expectLiteral what actual expected = none ↔ actual = some (.literal expected) := by
  simp [expectLiteral]

@[simp] theorem expectNone_passes {actual : Option Value} : expectNone what actual = none ↔ actual = none := by
  simp [expectNone]

theorem count_passes {actual expected : Nat} :
    (verdict context (expectCount what actual expected)).failure = none ↔ actual = expected := by
  simp [expectCount]

theorem forall_mem_numbered {check : Nat → α → β} {parts : List α} {holds : β → Prop} :
    (∀ item ∈ numbered check parts, holds item) ↔
      ∀ index part, parts[index]? = some part → holds (check index part) := by
  simp only [numbered, List.forall_mem_map, Prod.forall, List.mem_zipIdx_iff_getElem?]
  exact forall_comm

/-- As many parts as expected, each of which meets what is expected at its place, are the expected parts. -/
theorem numbered_passes {run : β → Report} {check : Nat → α → β} {parts others : List α} {meets : Nat → α → α → Prop}
    (passes : ∀ index part, (run (check index part)).failure = none ↔
      ∃ other, others[index]? = some other ∧ meets index other part)
    (each : ∀ index, ∀ part ∈ parts, ∀ other ∈ others, meets index other part ↔ other = part) :
    (others.length = parts.length ∧ ∀ item ∈ numbered check parts, (run item).failure = none) ↔ others = parts := by
  rw [forall_mem_numbered]
  constructor
  · rintro ⟨count, met⟩
    refine List.ext_getElem? fun index => ?_
    cases found : parts[index]? with
    | none =>
      rw [List.getElem?_eq_none_iff] at found ⊢
      omega
    | some part =>
      obtain ⟨other, there, suits⟩ := (passes index part).mp (met index part found)
      rw [there, (each index part (List.mem_of_getElem? found) other (List.mem_of_getElem? there)).mp suits]
  · rintro rfl
    refine ⟨rfl, fun index part found => (passes index part).mpr ⟨part, found, ?_⟩⟩
    exact (each index part (List.mem_of_getElem? found) part (List.mem_of_getElem? found)).mpr rfl

/-! Profiles, from the bindings up. -/

theorem default_passes {param : Param} {default : Option Value} :
    (Check.param context param (Value.defaultCheck default)).failure = none ↔ param.default = default := by
  cases default with
  | none => simp [Check.param, Value.defaultCheck]
  | some value =>
    cases value with
    | literal => simp [Check.param, Value.defaultCheck]
    | string => simp [Check.param, Value.defaultCheck]

theorem param_passes {param other : Param} (regular : param.Regular) (suits : other.Regular) :
    (sequence (Check.param context other) param.profile).failure = none ↔ other = param := by
  have name : (Check.param context other (.name param.name.text)).failure = none ↔ other.name = param.name := by
    simp [Check.param, Value.string_text regular.name]
  have sources : (Check.param context other (.sources (param.sources.map Value.text))).failure = none ↔
      other.sources = param.sources := by
    simp [Check.param, Value.texts_inj regular.sources suits.sources]
  calc
    _ ↔ other.name = param.name ∧ other.default = param.default ∧ other.sources = param.sources := by
      simp only [sequence_passes, Param.profile, List.forall_mem_cons, name, default_passes, sources]
      simp
    _ ↔ other = param := by
      cases other
      cases param
      simp

theorem invoke_passes {invocation other : Invoke} (regular : invocation.Regular) (suits : other.Regular) :
    (sequence (Check.invoke context other) invocation.profile).failure = none ↔ other = invocation := by
  have handler : (Check.invoke context other (.handler invocation.handler.text)).failure = none ↔
      other.handler = invocation.handler := by
    simp [Check.invoke, ← Registration.literal_of_isLiteral regular.handler]
  have params : (other.params.length = invocation.params.length ∧
      ∀ check ∈ numbered (fun index param => .param index param.profile) invocation.params,
        (Check.invoke context other check).failure = none) ↔ other.params = invocation.params :=
    numbered_passes (fun _ _ => onPart_passes) fun _ param bound other binds =>
      param_passes (regular.params param bound) (suits.params other binds)
  calc
    _ ↔ other.handler = invocation.handler ∧ other.name = invocation.name ∧ other.params = invocation.params := by
      rw [← params, sequence_passes, Invoke.profile, List.forall_mem_append]
      simp only [List.forall_mem_cons, List.not_mem_nil, false_implies, implies_true, true_and, and_assoc]
      refine and_congr handler (and_congr ?_ (and_congr_left' count_passes))
      cases given : invocation.name with
      | none => simp [Check.invoke]
      | some name => simp [Check.invoke, Value.string_text (regular.name name given)]
    _ ↔ other = invocation := by
      cases other
      cases invocation
      simp

theorem command_passes {acted other : Command} (regular : acted.Regular) (suits : other.Regular) :
    (Check.command context other acted.profile).failure = none ↔ other = acted := by
  cases acted with
  | includes name =>
    cases other with
    | includes => simp [Check.command, Command.profile, sequence_passes, Check.includes, Value.string_text regular]
    | invoke => simp [Check.command, Command.profile]
  | invoke invocation =>
    cases other with
    | includes => simp [Check.command, Command.profile]
    | invoke other => simp [Check.command, Command.profile, invoke_passes regular suits]

theorem route_passes {route other : Route} (regular : route.Regular) (suits : other.Regular) :
    (sequence (Check.route context other) route.profile).failure = none ↔ other = route := by
  have commands : (other.commands.length = route.commands.length ∧
      ∀ check ∈ numbered (fun index command => .command index command.profile) route.commands,
        (Check.route context other check).failure = none) ↔ other.commands = route.commands :=
    numbered_passes (fun _ _ => onPart_passes) fun _ command listed other member =>
      command_passes (regular.commands command listed) (suits.commands other member)
  calc
    _ ↔ other.name = route.name ∧ other.description = route.description ∧ other.commands = route.commands := by
      rw [← commands, sequence_passes, Route.profile, List.forall_mem_append]
      simp only [List.forall_mem_cons, List.not_mem_nil, false_implies, implies_true, true_and, and_assoc]
      refine and_congr ?_ (and_congr ?_ (and_congr_left' count_passes))
      · cases given : route.name with
        | none => simp [Check.route]
        | some name => simp [Check.route, Value.string_text (regular.name name given)]
      · cases given : route.description with
        | none => simp [Check.route]
        | some description => simp [Check.route, Value.string_text (regular.description description given)]
    _ ↔ other = route := by
      cases other
      cases route
      simp

theorem import_passes {document : Document} {index : Nat} {code : String} :
    (Check.document document (.import_ index code)).failure = none ↔
      ∃ value, document.imports[index]? = some value ∧ value.code = code := by
  cases found : document.imports[index]? with
  | none => simp [Check.document, found]
  | some value => simp [Check.document, found]

end Check

/-- The profile of a regular document is met by no other regular document. -/
theorem Document.Regular.check_profile_passes {document other : Document} (regular : document.Regular)
    (suits : other.Regular) : (other.check document.profile).failure = none ↔ other = document := by
  have label : (Check.document other (.label document.label)).failure = none ↔ other.label = document.label := by
    simp [Check.document]
  have imports : (other.imports.length = document.imports.length ∧
      ∀ check ∈ Check.numbered (fun index value => .import_ index value.code) document.imports,
        (Check.document other check).failure = none) ↔ other.imports = document.imports :=
    Check.numbered_passes (fun _ _ => Check.import_passes) fun _ value imported other member =>
      Value.code_inj (regular.imports value imported) (suits.imports other member)
  have routes : (other.routes.length = document.routes.length ∧
      ∀ check ∈ Check.numbered (fun index route => .route index route.profile) document.routes,
        (Check.document other check).failure = none) ↔ other.routes = document.routes :=
    Check.numbered_passes (fun _ _ => Check.onPart_passes) fun _ route listed other member =>
      Check.route_passes (regular.routes route listed) (suits.routes other member)
  calc
    _ ↔ other.label = document.label ∧ other.imports = document.imports ∧ other.routes = document.routes := by
      rw [← imports, ← routes, Document.check, Check.sequence_passes, Document.profile]
      simp only [List.forall_mem_append, List.forall_mem_cons, List.not_mem_nil, false_implies, implies_true, and_true,
        and_assoc]
      exact and_congr label (and_congr Check.count_passes (and_congr_right' (and_congr_left' Check.count_passes)))
    _ ↔ other = document := by
      cases other
      cases document
      simp

/-- A document that was read from a source passes the checks of the profile of another one if and only if the two are
the same. No run of checks looks past the parts of a document without saying so at once. -/
theorem Document.check_profile {source text label name : String} {dialect mode : Dialect} {document other : Document}
    (parsed : parse source label dialect = .ok document) (reread : parse text name mode = .ok other) :
    ((other.check document.profile).failure = none ↔ other = document) ∧
      ∀ (checked : Document) (checks : List DocumentCheck),
        Check.Guarded (checked.check checks).failure (checked.lookups checks) ∧
          ∀ lookup ∈ checked.lookups checks, ¬ lookup.Inside →
            (checked.check checks).failure.map Check.Failure.message =
              some (lookup.context ++ ": " ++ lookup.what ++ " index " ++ toString lookup.index ++
                " out of bounds (" ++ toString lookup.available ++ " present)") := by
  obtain ⟨_, derived⟩ := parse_eq_ok_iff.mp parsed
  obtain ⟨_, again⟩ := parse_eq_ok_iff.mp reread
  refine ⟨derived.regular.check_profile_passes again.regular, fun checked checks => ?_⟩
  have guarded : Check.Guarded (checked.check checks).failure (checked.lookups checks) :=
    Check.Guarded.sequence (Check.Guarded.document checked) checks
  refine ⟨guarded, fun lookup member outside => ?_⟩
  rw [(guarded.inside_or_told lookup member).resolve_left outside]
  rfl

/-- An empty default is not the same as none, and a command that is not there is reported inside of its route. -/
theorem Document.check_profile_default :
    let source := "IMPORT a\nROUTE r d DOES «h» USING p FROM x"
    let text := "IMPORT a\nROUTE r d DOES «h» USING p '' FROM x"
    ∃ document other, parse source "ns" .permissive = .ok document ∧ parse text "ns" .permissive = .ok other ∧
      (document.check document.profile).failure = none ∧ (other.check document.profile).failure ≠ none ∧
      (other.check [.route 0 [.commandCount 1, .command 4 (.invoke [])]]).failure.map Check.Failure.message =
        some "document:route[0]: command index 4 out of bounds (1 present)" := by
  intro source text
  let described (default : Option Value) : Document :=
    { label := "ns"
      imports := [.string "a"]
      routes := [
        { name := some (.string "r")
          description := some (.string "d")
          commands := [.invoke {
            handler := .literal "h"
            params := [{ name := .string "p", default, sources := [.string "x"] }] }] }] }
  have scanned : Scan.ofText source =
      ⟨[⟨.keyword .importWord, 0, 6⟩, ⟨.string "a", 7, 8⟩, ⟨.keyword .routeWord, 9, 14⟩, ⟨.string "r", 15, 16⟩,
        ⟨.string "d", 17, 18⟩, ⟨.keyword .doesWord, 19, 23⟩, ⟨.literal "h", 24, 29⟩, ⟨.keyword .usingWord, 30, 35⟩,
        ⟨.string "p", 36, 37⟩, ⟨.keyword .fromWord, 38, 42⟩, ⟨.string "x", 43, 44⟩], none⟩ := by decide +kernel
  have again : Scan.ofText text =
      ⟨[⟨.keyword .importWord, 0, 6⟩, ⟨.string "a", 7, 8⟩, ⟨.keyword .routeWord, 9, 14⟩, ⟨.string "r", 15, 16⟩,
        ⟨.string "d", 17, 18⟩, ⟨.keyword .doesWord, 19, 23⟩, ⟨.literal "h", 24, 29⟩, ⟨.keyword .usingWord, 30, 35⟩,
        ⟨.string "p", 36, 37⟩, ⟨.string "", 38, 40⟩, ⟨.keyword .fromWord, 41, 45⟩, ⟨.string "x", 46, 47⟩], none⟩ := by
    decide +kernel
  have parsed : parse source "ns" .permissive = .ok (described none) := by
    simp only [parse, scanned]
    rfl
  have reread : parse text "ns" .permissive = .ok (described (some (.string ""))) := by
    simp only [parse, again]
    rfl
  refine ⟨_, _, parsed, reread, (check_profile parsed parsed).1.mpr rfl, ?_, ?_⟩
  · exact mt (check_profile parsed reread).1.mp (by decide)
  · have told := ((check_profile parsed reread).2 (described (some (.string "")))
      [.route 0 [.commandCount 1, .command 4 (.invoke [])]]).2 ⟨"document:route[0]", "command", 4, 1⟩
      (by decide +kernel) (by decide)
    exact told.trans (by decide +kernel)

end RouteDoc
