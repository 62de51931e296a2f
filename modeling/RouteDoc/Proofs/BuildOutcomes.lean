import RouteDoc.Command.Run
import RouteDoc.Proofs.SourcesKept

/-! How builds end. The exit code tells whether every source was translated, whether there was none, or whether
anything failed before or between. Files are written at the places of outputs only, and a write moves no folder, so
these places are the same before the first translation and after the last. -/

namespace RouteDoc

/-! Writes. -/

/-- Whether two trees differ only at the given places, and not in their folders. -/
structure FileTree.WrittenAt (places : Location → Prop) (before after : FileTree) : Prop where
  rooted : after.workingFolder = before.workingFolder
  folders : ∀ location, after.lookup location = some .folder ↔ before.lookup location = some .folder
  others : ∀ location, after.lookup location = before.lookup location ∨ places location

namespace FileTree.WrittenAt
variable {places wider : Location → Prop} {before middle after : FileTree}

theorem refl (places : Location → Prop) (tree : FileTree) : WrittenAt places tree tree :=
  ⟨rfl, fun _ => .rfl, fun _ => .inl rfl⟩

theorem trans (first : WrittenAt places before middle) (second : WrittenAt places middle after) :
    WrittenAt places before after := by
  refine ⟨second.rooted.trans first.rooted, ?_, ?_⟩
  · exact fun location => (second.folders location).trans (first.folders location)
  · intro location
    rcases second.others location with same | written
    · rw [same]
      exact first.others location
    · exact .inr written

theorem mono (written : WrittenAt places before after) (within : ∀ location, places location → wider location) :
    WrittenAt wider before after :=
  ⟨written.rooted, written.folders, fun location => (written.others location).imp_right (within location)⟩

/-- Paths lead to the same places before and after. -/
theorem resolve_iff (written : WrittenAt places before after) (path : Path) (location : Location) :
    after.resolve path = .ok location ↔ before.resolve path = .ok location := by
  rw [resolve_eq_ok, resolve_eq_ok, written.rooted]
  have same : after.follow (if path.isAbsolute then [] else before.workingFolder) path.pieces = .ok location ↔
      before.follow (if path.isAbsolute then [] else before.workingFolder) path.pieces = .ok location :=
    ⟨follow_kept fun place => (written.folders place).mp, follow_kept fun place => (written.folders place).mpr⟩
  rw [same]

theorem write {tree : FileTree} {path : Path} {text : String} (written : tree.write path text = .ok after) :
    WrittenAt (tree.resolve path = .ok ·) tree after := by
  obtain ⟨target, resolved, free, rfl⟩ := write_eq_ok written
  have others (location : Location) :
      (tree.put target (.file text.toUTF8 tree.clock)).lookup location = tree.lookup location ∨ location = target := by
    rw [lookup_put]
    split
    next there => exact .inr there.2
    next => exact .inl rfl
  refine ⟨rfl, ?_, ?_⟩
  · intro location
    change (tree.put target (.file text.toUTF8 tree.clock)).lookup location = some .folder ↔ _
    rw [lookup_put]
    split
    next there => simp [there.2, free]
    next => rfl
  · intro location
    rcases others location with same | rfl
    · exact .inl same
    · exact .inr resolved

end FileTree.WrittenAt

/-! Translations. -/

namespace Translator
variable {translator : Translator} {tree after last : FileTree} {source output : Path} {sources rest : List Path}

/-- Whether sources can be translated one after another, each with the files as the ones before it left them. -/
inductive TranslatesAll (translator : Translator) : FileTree → List Path → FileTree → Prop
  | nil {tree : FileTree} : TranslatesAll translator tree [] tree
  | cons {tree after last : FileTree} {source output : Path} {rest : List Path} :
      translator.translate tree source = .ok (output, after) → TranslatesAll translator after rest last →
      TranslatesAll translator tree (source :: rest) last

/-- The places where sources have their outputs. -/
def OutputAt (translator : Translator) (tree : FileTree) (sources : List Path) (location : Location) : Prop :=
  ∃ source ∈ sources, tree.resolve (translator.outputPath source) = .ok location

theorem translateAll_ok_iff :
    (∃ outputs, (translator.translateAll tree sources).1 = .ok outputs) ↔
      ∃ last, translator.TranslatesAll tree sources last := by
  induction sources generalizing tree with
  | nil => exact ⟨fun _ => ⟨tree, .nil⟩, fun _ => ⟨[], rfl⟩⟩
  | cons source rest ih =>
    unfold translateAll
    cases translated : translator.translate tree source with
    | error =>
      constructor
      · rintro ⟨outputs, done⟩
        cases done
      · rintro ⟨last, _ | ⟨translates, _⟩⟩
        cases translated.symm.trans translates
    | ok written =>
      obtain ⟨output, after⟩ := written
      constructor
      · rintro ⟨outputs, done⟩
        cases others : (translator.translateAll after rest).1 with
        | error => simp [others, Except.map] at done
        | ok outputs =>
          obtain ⟨last, translates⟩ := ih.mp ⟨outputs, others⟩
          exact ⟨last, .cons translated translates⟩
      · rintro ⟨last, _ | ⟨translates, further⟩⟩
        obtain ⟨_, rfl⟩ := Prod.mk.inj (Except.ok.inj (translated.symm.trans translates))
        obtain ⟨outputs, others⟩ := ih.mpr ⟨last, further⟩
        exact ⟨output :: outputs, by simp [others, Except.map]⟩

theorem TranslatesAll.tree_eq (translates : translator.TranslatesAll tree sources last) :
    (translator.translateAll tree sources).2 = last := by
  induction translates with
  | nil => rfl
  | cons translated _ ih =>
    unfold translateAll
    rw [translated]
    exact ih

theorem writtenAt_translate (translated : translator.translate tree source = .ok (output, after)) :
    FileTree.WrittenAt (translator.OutputAt tree [source]) tree after := by
  obtain ⟨rfl, text, _, written⟩ := translate_eq_ok translated
  exact (FileTree.WrittenAt.write written).mono fun _ there => ⟨source, List.mem_singleton_self source, there⟩

/-- A run writes outputs of its sources only, wherever it stops. -/
theorem writtenAt_translateAll :
    FileTree.WrittenAt (translator.OutputAt tree sources) tree (translator.translateAll tree sources).2 := by
  induction sources generalizing tree with
  | nil => exact .refl _ tree
  | cons source rest ih =>
    unfold translateAll
    cases translated : translator.translate tree source with
    | error => exact .refl _ tree
    | ok written =>
      have first := writtenAt_translate translated
      refine .trans (first.mono ?_) (ih.mono ?_)
      · rintro location ⟨_, member, there⟩
        obtain rfl := List.mem_singleton.mp member
        exact ⟨_, List.mem_cons_self, there⟩
      · rintro location ⟨other, member, there⟩
        exact ⟨other, List.mem_cons_of_mem _ member, (first.resolve_iff _ _).mp there⟩

/-- A build that finds sources fails or finishes, depending on whether they can be translated. -/
theorem build_filled (translator : Translator) {folder : Path} {extension : String}
    (found : discover tree folder extension = .ok sources) (filled : sources ≠ []) :
    ((translator.build tree folder extension).ending.exitCode = 0 ∨
      (translator.build tree folder extension).ending.exitCode = 1) ∧
    ((translator.build tree folder extension).ending.exitCode = 0 ↔
      ∃ last, translator.TranslatesAll tree sources last) ∧
    (translator.build tree folder extension).tree = (translator.translateAll tree sources).2 := by
  rw [← translateAll_ok_iff]
  unfold build
  rw [found]
  cases sources with
  | nil => exact absurd rfl filled
  | cons first rest =>
    dsimp only
    cases (translator.translateAll tree (first :: rest)).1 with
    | error => exact ⟨.inr rfl, ⟨nofun, nofun⟩, rfl⟩
    | ok outputs => exact ⟨.inl rfl, ⟨fun _ => ⟨outputs, rfl⟩, fun _ => rfl⟩, rfl⟩

end Translator

/-! Invocations. -/

namespace Invocation
variable {invocation : Invocation} {tree : FileTree} {folder : Path}

/-- What is settled before anything is translated: the settings, the translator for them and the sources. -/
structure Finds (invocation : Invocation) (tree : FileTree) (folder : Path) (settings : Settings)
    (translator : Translator) (files : List Path) : Prop where
  loaded : Settings.load tree invocation.sources = .ok settings
  chosen : Translator.ofSettings settings = .ok translator
  found : discover tree folder settings.extension = .ok files

theorem Finds.unique {settings other : Settings} {translator second : Translator} {files others : List Path}
    (finds : invocation.Finds tree folder settings translator files)
    (again : invocation.Finds tree folder other second others) :
    other = settings ∧ second = translator ∧ others = files := by
  obtain rfl := Except.ok.inj (again.loaded.symm.trans finds.loaded)
  obtain rfl := Except.ok.inj (again.chosen.symm.trans finds.chosen)
  obtain rfl := Except.ok.inj (again.found.symm.trans finds.found)
  exact ⟨rfl, rfl, rfl⟩

theorem Finds.run {settings : Settings} {translator : Translator} {files : List Path}
    (building : invocation.task = .build folder) (finds : invocation.Finds tree folder settings translator files) :
    invocation.run tree = .ended (translator.build tree folder settings.extension) := by
  unfold Invocation.run
  rw [finds.loaded]
  dsimp only
  rw [finds.chosen]
  dsimp only
  rw [runWith, building]

theorem run_of_not_finds (building : invocation.task = .build folder)
    (lost : ¬ ∃ settings translator files, invocation.Finds tree folder settings translator files) :
    ∃ failure, invocation.run tree = .ended ⟨.failed failure, [], tree⟩ := by
  unfold Invocation.run
  cases loaded : Settings.load tree invocation.sources with
  | error error => exact ⟨_, rfl⟩
  | ok settings =>
    dsimp only
    cases chosen : Translator.ofSettings settings with
    | error error => exact ⟨_, rfl⟩
    | ok translator =>
      dsimp only
      rw [runWith, building]
      dsimp only
      unfold Translator.build
      cases found : discover tree folder settings.extension with
      | error error => exact ⟨_, rfl⟩
      | ok files => exact absurd ⟨settings, translator, files, loaded, chosen, found⟩ lost

/-- A build ends with the exit code 0 if it finds sources and translates all of them, with 2 if it finds none, and
with 1 otherwise. It leaves the files alone unless it finds sources, and then writes at the places of their outputs. -/
theorem exitCode_build (building : invocation.task = .build folder) (tree : FileTree) :
    ∃ outcome, invocation.run tree = .ended outcome ∧
      (outcome.ending.exitCode = 0 ↔ ∃ settings translator files last,
        invocation.Finds tree folder settings translator files ∧ files ≠ [] ∧
          translator.TranslatesAll tree files last) ∧
      (outcome.ending.exitCode = 2 ↔ ∃ settings translator, invocation.Finds tree folder settings translator []) ∧
      (outcome.ending.exitCode = 0 ∨ outcome.ending.exitCode = 1 ∨ outcome.ending.exitCode = 2) ∧
      ((∀ settings translator files, invocation.Finds tree folder settings translator files → files = []) →
        outcome.tree = tree) ∧
      ∀ location, outcome.tree.lookup location = tree.lookup location ∨ ∃ settings translator files,
        invocation.Finds tree folder settings translator files ∧ translator.OutputAt tree files location := by
  by_cases known : ∃ settings translator files, invocation.Finds tree folder settings translator files
  next =>
    obtain ⟨settings, translator, files, finds⟩ := known
    refine ⟨_, finds.run building, ?_⟩
    cases files with
    | nil =>
      unfold Translator.build
      rw [finds.found]
      refine ⟨⟨nofun, ?_⟩, ⟨fun _ => ⟨_, _, finds⟩, fun _ => rfl⟩, .inr (.inr rfl), fun _ => rfl, fun _ => .inl rfl⟩
      rintro ⟨_, _, _, _, again, filled, _⟩
      exact absurd (finds.unique again).2.2 filled
    | cons first rest =>
      obtain ⟨code, finished, left⟩ := translator.build_filled finds.found nofun
      refine ⟨finished.trans ⟨?_, ?_⟩, ⟨?_, ?_⟩, code.imp_right .inl, ?_, ?_⟩
      · rintro ⟨last, translates⟩
        exact ⟨_, _, _, last, finds, nofun, translates⟩
      · rintro ⟨_, _, _, last, again, _, translates⟩
        obtain ⟨rfl, rfl, rfl⟩ := finds.unique again
        exact ⟨last, translates⟩
      · intro none
        omega
      · rintro ⟨_, _, again⟩
        cases (finds.unique again).2.2
      · intro empty
        cases empty _ _ _ finds
      · intro location
        rw [left]
        exact (Translator.writtenAt_translateAll.others location).imp_right fun there => ⟨_, _, _, finds, there⟩
  next =>
    obtain ⟨failure, ran⟩ := run_of_not_finds building known
    refine ⟨_, ran, ⟨nofun, ?_⟩, ⟨nofun, ?_⟩, .inr (.inl rfl), fun _ => rfl, fun _ => .inl rfl⟩
    · rintro ⟨settings, translator, files, _, finds, _⟩
      exact absurd ⟨settings, translator, files, finds⟩ known
    · rintro ⟨settings, translator, finds⟩
      exact absurd ⟨settings, translator, [], finds⟩ known

/-- The second source is refused: the output of the first stays, and nothing else is touched. -/
theorem exitCode_build_stopped :
    let tree : FileTree :=
      ⟨[(["a.codl"], .file "ROUTE a".toUTF8 0), (["b.codl"], .file "USING b".toUTF8 1)], [], 2⟩
    ∃ invocation outcome, ofArguments ["build", "-d", ""] = .ok invocation ∧ invocation.task = .build ⟨""⟩ ∧
      invocation.run tree = .ended outcome ∧ outcome.ending.exitCode = 1 ∧
      ∀ location, location ≠ ["a.rs"] → location ≠ ["b.rs"] → outcome.tree.lookup location = tree.lookup location := by
  intro tree
  let invocation : Invocation := ⟨none, none, none, false, .build ⟨""⟩⟩
  let translator : Translator := ⟨.rust Format.defaultRegistry, .permissive⟩
  have building : invocation.task = .build ⟨""⟩ := rfl
  have loaded : Settings.load tree invocation.sources =
      .ok ⟨.permissive, "codl", "rust", Format.defaultRegistry, 1000⟩ := eq_ok_of_toOption (by decide +kernel)
  have found : discover tree ⟨""⟩ "codl" = .ok [⟨"a.codl"⟩, ⟨"b.codl"⟩] :=
    Search.discover_all ["a.codl", "b.codl"] (by simp [Search.IsPlain]) (by decide) (by decide +kernel)
      (by decide +kernel) (by decide +kernel) (by decide +kernel) (by decide +kernel) (by decide +kernel)
  have finds : invocation.Finds tree ⟨""⟩ _ translator _ := ⟨loaded, rfl, found⟩
  have refused : (translator.translateAll tree [⟨"a.codl"⟩, ⟨"b.codl"⟩]).1.toOption = none := by decide +kernel
  obtain ⟨outcome, ran, finished, empty, code, _, written⟩ := exitCode_build building tree
  refine ⟨invocation, outcome, rfl, rfl, ran, ?_, ?_⟩
  · have unfinished : outcome.ending.exitCode ≠ 0 := by
      intro zero
      obtain ⟨_, _, _, last, again, _, translates⟩ := finished.mp zero
      obtain ⟨rfl, rfl, rfl⟩ := finds.unique again
      obtain ⟨outputs, done⟩ := Translator.translateAll_ok_iff.mpr ⟨last, translates⟩
      rw [done] at refused
      cases refused
    have filled : outcome.ending.exitCode ≠ 2 := by
      intro two
      obtain ⟨_, _, again⟩ := empty.mp two
      cases (finds.unique again).2.2
    omega
  · intro location first second
    refine (written location).resolve_right ?_
    rintro ⟨_, _, _, again, source, member, there⟩
    obtain ⟨rfl, rfl, rfl⟩ := finds.unique again
    simp only [List.mem_cons, List.not_mem_nil, or_false] at member
    rcases member with rfl | rfl
    · exact first (Except.ok.inj (there.symm.trans (eq_ok_of_toOption (by decide +kernel))))
    · exact second (Except.ok.inj (there.symm.trans (eq_ok_of_toOption (by decide +kernel))))

end Invocation
end RouteDoc
