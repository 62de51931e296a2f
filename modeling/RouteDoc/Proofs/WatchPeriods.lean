import RouteDoc.Command.Run
import RouteDoc.Proofs.SourcesKept
import RouteDoc.Settings.Leaf

/-! How often a folder is looked at. Settings with a period of zero are refused, wherever it comes from. A period that
is given with the task takes the place of theirs; it is not checked, only the settings behind it are. -/

namespace RouteDoc

/-! Settings. -/

namespace Settings
variable {tree : FileTree} {sources : List SettingsSource} {settings checked : Settings} {table : Setting}

/-- The period is among the settings that are read. -/
theorem period_of_read (taken : read table = .ok settings) :
    readSingle table .watch Leaf.period.key Setting.readNumber = .ok settings.period := by
  obtain ⟨_, _, taken⟩ := exists_of_bind_eq_ok taken
  obtain ⟨_, _, taken⟩ := exists_of_bind_eq_ok taken
  obtain ⟨_, _, taken⟩ := exists_of_bind_eq_ok taken
  obtain ⟨period, found, taken⟩ := exists_of_bind_eq_ok taken
  obtain rfl := Except.ok.inj taken
  exact found

theorem period_pos_of_load (loaded : load tree sources = .ok settings) : 1 ≤ settings.period := by
  obtain ⟨table, _, made⟩ := exists_of_bind_eq_ok loaded
  obtain ⟨whole, _, accepted⟩ := exists_of_bind_eq_ok made
  obtain ⟨rfl, _, _, regular⟩ := check_eq_ok accepted
  exact Nat.pos_of_ne_zero regular

/-- The check blames a period of zero if nothing else is wrong. -/
theorem check_zeroPeriod (zero : settings.period = 0) (named : settings.extension ≠ "")
    (plain : settings.extension.toList.any isReserved = false) (filled : Text.allBlank settings.registry = false) :
    settings.check = .error .zeroPeriod := by
  simp [check, zero, named, plain, filled]

/-- Settings in which the period is zero are refused. -/
theorem load_of_period_zero (collected : tableOf tree sources = .ok table)
    (zero : readSingle table .watch Leaf.period.key Setting.readNumber = .ok 0) :
    ∃ error, load tree sources = .error error ∧ ∀ settings, read table = .ok settings → settings.extension ≠ "" →
      settings.extension.toList.any isReserved = false → Text.allBlank settings.registry = false →
        error = .zeroPeriod := by
  have made : load tree sources = ofTable table := by rw [load, collected]; rfl
  cases taken : read table with
  | error error =>
    refine ⟨error, by rw [made, ofTable, taken]; rfl, nofun⟩
  | ok whole =>
    have none : whole.period = 0 := Except.ok.inj ((period_of_read taken).symm.trans zero)
    have checks : load tree sources = whole.check := by rw [made, ofTable, taken]; rfl
    rw [checks]
    cases accepted : whole.check with
    | ok checked =>
      obtain ⟨_, _, _, regular⟩ := check_eq_ok accepted
      exact absurd none regular
    | error error =>
      refine ⟨error, rfl, fun settings same named plain filled => ?_⟩
      obtain rfl := Except.ok.inj same
      exact Except.error.inj (accepted.symm.trans (check_zeroPeriod none named plain filled))

end Settings

/-! Tasks. -/

namespace Invocation
variable {invocation : Invocation} {tree : FileTree} {watcher : Watcher}

/-- Where watching starts, there are settings with a format, and the period is the one that is given with the task, or
else that of the settings. -/
theorem run_eq_watching (watches : invocation.run tree = .watching watcher) : ∃ folder given settings translator,
    invocation.task = .watch folder given ∧ Settings.load tree invocation.sources = .ok settings ∧
      Translator.ofSettings settings = .ok translator ∧
      watcher = ⟨translator, folder, settings.extension, given.getD settings.period⟩ := by
  unfold run at watches
  cases loaded : Settings.load tree invocation.sources with
  | error =>
    rw [loaded] at watches
    cases watches
  | ok settings =>
    rw [loaded] at watches
    dsimp only at watches
    cases chosen : Translator.ofSettings settings with
    | error =>
      rw [chosen] at watches
      cases watches
    | ok translator =>
      rw [chosen] at watches
      dsimp only at watches
      unfold runWith at watches
      split at watches
      next => cases watches
      next folder given task =>
        exact ⟨folder, given, settings, translator, task, rfl, chosen, (Run.watching.inj watches).symm⟩
      next => cases watches

/-- A folder is watched with the period of the settings, which is not zero, or with the one that is given with the task,
whatever it is. Settings in which it is zero end every task. -/
theorem watching_period (invocation : Invocation) (tree : FileTree) :
    (∀ watcher, invocation.run tree = .watching watcher → ∃ folder given settings,
      invocation.task = .watch folder given ∧ Settings.load tree invocation.sources = .ok settings ∧
      1 ≤ settings.period ∧ watcher.period = given.getD settings.period ∧
      (1 ≤ watcher.period ↔ given ≠ some 0)) ∧
    ∀ table, Settings.tableOf tree invocation.sources = .ok table →
      Settings.readSingle table .watch Leaf.period.key Setting.readNumber = .ok 0 →
      ∃ error, invocation.run tree = .ended ⟨.failed (.settings error), [], tree⟩ ∧
        ∀ settings, Settings.read table = .ok settings → settings.extension ≠ "" →
          settings.extension.toList.any Settings.isReserved = false → Text.allBlank settings.registry = false →
            error = .zeroPeriod := by
  constructor
  · intro watcher watches
    obtain ⟨folder, given, settings, translator, task, loaded, _, rfl⟩ := run_eq_watching watches
    have positive := Settings.period_pos_of_load loaded
    refine ⟨folder, given, settings, task, loaded, positive, rfl, ?_⟩
    cases given with
    | none => simpa using positive
    | some period => simp [Nat.one_le_iff_ne_zero]
  · intro table collected zero
    obtain ⟨error, refused, blame⟩ := Settings.load_of_period_zero collected zero
    refine ⟨error, ?_, blame⟩
    rw [run, refused]

/-- A period of zero that is given with the task is taken as it is. -/
theorem watching_period_zero :
    ¬ ∀ arguments invocation tree watcher, ofArguments arguments = .ok invocation →
      invocation.run tree = .watching watcher → 1 ≤ watcher.period := by
  intro never
  let invocation : Invocation := ⟨none, none, none, false, .watch ⟨"."⟩ (some 0)⟩
  let tree : FileTree := ⟨[], [], 0⟩
  have parsed : ofArguments ["watch", "--period", "0"] = .ok invocation := rfl
  have loaded : Settings.load tree invocation.sources =
      .ok ⟨.permissive, "codl", "rust", Format.defaultRegistry, 1000⟩ := eq_ok_of_toOption (by decide +kernel)
  have watches : invocation.run tree =
      .watching ⟨⟨.rust Format.defaultRegistry, .permissive⟩, ⟨"."⟩, "codl", 0⟩ := by
    rw [run, loaded]
    rfl
  exact absurd (never _ _ _ _ parsed watches) (by decide)

end Invocation

end RouteDoc
