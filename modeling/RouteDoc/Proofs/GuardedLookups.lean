import RouteDoc.Document.Lookups

/-! Every run of checks is guarded: it looks at parts that are there, up to the first look at one that is not, and
that look ends it. No other check fails as if a part had been missing. -/

namespace RouteDoc.Check

/-- The lookups of a run that ends with the given failure, if with any. All of them are inside, or all but the
last, which the failure tells about. -/
inductive Guarded (failure : Option Failure) : List Lookup → Prop
  | inside {lookups : List Lookup} (inside : ∀ lookup ∈ lookups, lookup.Inside)
    (other : ∀ lookup : Lookup, failure ≠ some lookup.failure) : Guarded failure lookups
  | stopped {lookups : List Lookup} {last : Lookup} (inside : ∀ lookup ∈ lookups, lookup.Inside)
    (outside : ¬ last.Inside) (told : failure = some last.failure) : Guarded failure (lookups ++ [last])

@[simp] theorem enclosing_failure (inner : Report) : (enclosing inner).failure = inner.failure := by
  obtain ⟨_, _ | _⟩ := inner
  · rfl
  · rfl

namespace Guarded
variable {failure : Option Failure} {lookups : List Lookup} {context what : String}

theorem passed : Guarded none [] := .inside nofun nofun

/-- A run that has not failed has looked at nothing that is not there. -/
theorem inside_of_passed (guarded : Guarded none lookups) : ∀ lookup ∈ lookups, lookup.Inside := by
  cases guarded with
  | inside inside => exact inside
  | stopped _ _ told => cases told

/-- A lookup that is not inside is the one that the failure tells about. -/
theorem inside_or_told (guarded : Guarded failure lookups) :
    ∀ lookup ∈ lookups, lookup.Inside ∨ failure = some lookup.failure := by
  intro lookup member
  cases guarded with
  | inside inside => exact .inl (inside lookup member)
  | stopped inside _ told =>
    rcases List.mem_append.mp member with earlier | final
    · exact .inl (inside lookup earlier)
    · cases List.mem_singleton.mp final
      exact .inr told

/-- What is looked at before is there. -/
theorem after {before : List Lookup} (inside : ∀ lookup ∈ before, lookup.Inside) (guarded : Guarded failure lookups) :
    Guarded failure (before ++ lookups) := by
  cases guarded with
  | inside others other => exact .inside (List.forall_mem_append.mpr ⟨inside, others⟩) other
  | stopped others outside told =>
    rw [← List.append_assoc]
    exact .stopped (List.forall_mem_append.mpr ⟨inside, others⟩) outside told

/-- A comparison fails in its own way. -/
theorem comparison {holds : Prop} [Decidable holds] {mismatch : Mismatch}
    (other : ∀ what index available, mismatch ≠ .outOfBounds what index available) :
    Guarded (verdict context (if holds then none else some mismatch)).failure [] := by
  refine .inside nofun fun lookup told => ?_
  split at told
  · cases told
  · exact other _ _ _ (congrArg Failure.mismatch (Option.some.inj told))

/-! A numbered part is looked up before anything in it is checked. -/

theorem missing {α : Type} {parts : List α} {index : Nat} (found : parts[index]? = none) :
    Guarded (some ⟨context, .outOfBounds what index parts.length⟩) [⟨context, what, index, parts.length⟩] := by
  have outside : ¬ (Lookup.mk context what index parts.length).Inside :=
    Nat.not_lt.mpr (List.getElem?_eq_none_iff.mp found)
  exact @stopped _ [] _ nofun outside rfl

theorem present {α : Type} {parts : List α} {index : Nat} {part : α} (found : parts[index]? = some part)
    (guarded : Guarded failure lookups) : Guarded failure (⟨context, what, index, parts.length⟩ :: lookups) := by
  have looked : ∀ lookup ∈ [Lookup.mk context what index parts.length], lookup.Inside :=
    List.forall_mem_singleton.mpr (List.getElem?_eq_some_iff.mp found).1
  exact after looked guarded

theorem part {α : Type} {parts : List α} {index : Nat} {run : String → α → Report} {lookups : String → α → List Lookup}
    (each : ∀ context part, Guarded (run context part).failure (lookups context part)) :
    Guarded (onPart context what parts index run).failure (partLookups context what parts index lookups) := by
  unfold onPart partLookups
  cases found : parts[index]? with
  | none => exact missing found
  | some part =>
    rw [enclosing_failure]
    exact present found (each _ part)

/-- Checks in order look where each of them looks, and the first that fails is the last that looks. -/
theorem sequence {α : Type} {run : α → Report} {lookups : α → List Lookup}
    (each : ∀ check, Guarded (run check).failure (lookups check)) (checks : List α) :
    Guarded (Check.sequence run checks).failure (sequenceLookups run lookups checks) := by
  induction checks with
  | nil => exact passed
  | cons check rest ih =>
    have first := each check
    unfold Check.sequence sequenceLookups
    match run check, first with
    | ⟨_, none⟩, first =>
      rw [if_pos rfl]
      exact after first.inside_of_passed ih
    | ⟨_, some _⟩, first => simpa using first

/-- Checks of a part in which nothing is numbered. -/
theorem flat {α : Type} {run : α → Report} (each : ∀ check, Guarded (run check).failure []) (checks : List α) :
    Guarded (Check.sequence run checks).failure [] := by
  have looked : sequenceLookups run (fun _ => []) checks = [] := by
    induction checks with
    | nil => rfl
    | cons check rest ih => simp [sequenceLookups, ih]
  exact looked ▸ sequence each checks

/-! One lemma for each kind of check. -/

theorem param (context : String) (param : Param) (check : ParamCheck) :
    Guarded (Check.param context param check).failure [] := by
  cases check with
  | name | defaultString | defaultLiteral | noDefault | sources => exact comparison nofun

theorem invoke (context : String) (invoke : Invoke) (check : InvokeCheck) :
    Guarded (Check.invoke context invoke check).failure (invokeLookups context invoke check) := by
  cases check with
  | handler | displayName | noDisplayName | paramCount => exact comparison nofun
  | param index checks => exact part fun inner bound => flat (param inner bound) checks

theorem includes (context : String) (name : Value) (check : IncludeCheck) :
    Guarded (Check.includes context name check).failure [] := by
  cases check with
  | name => exact comparison nofun

theorem command (context : String) (command : Command) (check : CommandCheck) :
    Guarded (Check.command context command check).failure (commandLookups context command check) := by
  cases check with
  | includes checks =>
    cases command with
    | includes name => exact flat (includes context name) checks
    | invoke => exact .inside nofun nofun
  | invoke checks =>
    cases command with
    | includes => exact .inside nofun nofun
    | invoke invocation => exact sequence (invoke context invocation) checks

theorem route (context : String) (route : Route) (check : RouteCheck) :
    Guarded (Check.route context route check).failure (routeLookups context route check) := by
  cases check with
  | name | noName | description | noDescription | commandCount => exact comparison nofun
  | command index check => exact part fun inner acted => command inner acted check

theorem document (document : Document) (check : DocumentCheck) :
    Guarded (Check.document document check).failure (documentLookups document check) := by
  cases check with
  | label | importCount | routeCount => exact comparison nofun
  | import_ index code =>
    cases found : document.imports[index]? with
    | none =>
      simp only [Check.document, documentLookups, partLookups, found]
      exact missing found
    | some value =>
      simp only [Check.document, documentLookups, partLookups, found]
      exact present found (comparison nofun)
  | route index checks => exact part fun inner routed => sequence (route inner routed) checks

end Guarded

end RouteDoc.Check
