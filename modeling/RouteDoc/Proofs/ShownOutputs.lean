import RouteDoc.Proofs.BatchRuns
import RouteDoc.Proofs.DistinctOutputs
import RouteDoc.Proofs.FirstFailures
import RouteDoc.Proofs.RefusedOutputs
import RouteDoc.Proofs.WatchedChanges

/-! What is shown of a source, and what a build makes of it. A build reads each source in the files as the translations
before it left them. An output that got in the place of a source is refused, so a source that is translated is still as
it was; what is shown of it in the files at the start is then what is written. -/

namespace RouteDoc

/-! Files. -/

namespace FileTree
variable {tree after : FileTree} {path other : Path} {text : String} {location : Location}

/-- What a path leads to after a text was written: what was there before, or the text. -/
theorem entry_write_or (written : tree.write path text = .ok after) (resolved : tree.resolve other = .ok location) :
    after.resolve other = .ok location ∧ (after.entry other = tree.entry other ∨
      tree.resolve path = .ok location ∧ ∃ time, after.entry other = .ok (.file text.toUTF8 time)) := by
  have first := WrittenAt.write written
  have again := (first.resolve_iff other location).mpr resolved
  refine ⟨again, ?_⟩
  by_cases met : tree.resolve path = .ok location
  · obtain ⟨time, held⟩ := Translator.entry_written written
    refine .inr ⟨met, time, ?_⟩
    rw [← held, entry, entry, again, (first.resolve_iff path location).mpr met]
  · left
    rw [entry, entry, again, resolved]
    dsimp only
    rw [(first.others location).resolve_right met]

theorem readText_of_entry {time : Time} (held : tree.entry path = .ok (.file text.toUTF8 time)) :
    tree.readText path = .ok text := by
  have decoded : readSource text.toUTF8 = .ok text := readSource_eq_ok_iff.mpr rfl
  rw [readText, readBytes, held]
  dsimp only
  cases found : String.fromUTF8? text.toUTF8 with
  | none =>
    rw [readSource, found] at decoded
    cases decoded
  | some other =>
    rw [readSource, found] at decoded
    exact congrArg Except.ok (Except.ok.inj decoded)

end FileTree

/-! Runs. -/

namespace Translator
variable {translator : Translator} {tree now last : FileTree} {source : Path} {before rest : List Path}
  {writings : List (Path × String)} {location : Location} {error : SourceError}

theorem rendering_eq_ok {text : String} (rendered : translator.rendering tree source = .ok text) :
    ∃ document, translator.document tree source = .ok document ∧ translator.format.render document = text := by
  unfold rendering at rendered
  split at rendered
  next => cases rendered
  next document found => exact ⟨document, found, Except.ok.inj rendered⟩

theorem rendering_of_document {document : Document} (found : translator.document tree source = .ok document) :
    translator.rendering tree source = .ok (translator.format.render document) := by
  rw [rendering, found]

theorem rendering_of_document_error (failed : translator.document tree source = .error error) :
    translator.rendering tree source = .error error := by
  rw [rendering, failed]

theorem document_congr (same : now.entry source = tree.entry source) :
    translator.document now source = translator.document tree source := by
  unfold document FileTree.readText FileTree.readBytes
  rw [same]

/-- What a path leads to when some sources are translated: what was there at first, or the output of one of them. -/
theorem Writes.entry_or (writes : translator.Writes tree before writings now)
    (resolved : tree.resolve source = .ok location) : now.entry source = tree.entry source ∨
      (∃ earlier ∈ before, tree.resolve (translator.outputPath earlier) = .ok location) ∧
        ∃ document time, now.entry source = .ok (.file (translator.format.render document).toUTF8 time) := by
  induction writes with
  | nil => exact .inl rfl
  | cons rendered written _ ih =>
    obtain ⟨again, first⟩ := FileTree.entry_write_or written resolved
    rcases ih again with same | ⟨⟨earlier, member, met⟩, output⟩
    · rw [same]
      refine first.imp_right fun ⟨met, time, held⟩ => ⟨⟨_, List.mem_cons_self, met⟩, ?_⟩
      obtain ⟨document, _, rfl⟩ := rendering_eq_ok rendered
      exact ⟨document, time, held⟩
    · right
      refine ⟨⟨earlier, List.mem_cons_of_mem _ member, ?_⟩, output⟩
      exact ((FileTree.WrittenAt.write written).resolve_iff _ _).mp met

/-- A source that has a document after others were translated has the same one before. -/
theorem Writes.document_eq {settings : Settings} (chosen : ofSettings settings = .ok translator)
    (writes : translator.Writes tree before writings now) (resolved : tree.resolve source = .ok location)
    {document : Document} (found : translator.document now source = .ok document) :
    translator.document tree source = .ok document := by
  rcases writes.entry_or resolved with same | ⟨_, earlier, time, held⟩
  · rw [← document_congr same, found]
  · obtain ⟨error, refused⟩ := refused_of_ofSettings chosen earlier source.label translator.dialect
    rw [Translator.document, FileTree.readText_of_entry held] at found
    dsimp only at found
    rw [refused] at found
    cases found

/-- A run comes to a source if those before it are translated. -/
theorem TranslatesAll.comes (translates : translator.TranslatesAll tree (before ++ source :: rest) last) :
    ∃ writings now output after, translator.Writes tree before writings now ∧
      translator.translate now source = .ok (output, after) := by
  induction before generalizing tree with
  | nil =>
    cases translates with
    | cons translated _ => exact ⟨[], tree, _, _, .nil, translated⟩
  | cons first before ih =>
    cases translates with
    | cons translated further =>
      obtain ⟨rfl, text, rendered, written⟩ := translate_eq_ok translated
      obtain ⟨writings, now, output, after, writes, comes⟩ := ih further
      exact ⟨_, now, output, after, .cons rendered written writes, comes⟩

theorem exists_writes (translates : (translator.translate tree source).toOption.isSome = true) : ∃ writings now,
    translator.translate tree source = .ok (translator.outputPath source, now) ∧
      translator.Writes tree [source] writings now := by
  cases translated : translator.translate tree source with
  | error =>
    rw [translated] at translates
    cases translates
  | ok written =>
    obtain ⟨output, now⟩ := written
    obtain ⟨rfl, text, rendered, put⟩ := translate_eq_ok translated
    exact ⟨_, now, rfl, .cons rendered put .nil⟩

theorem Writes.stops (writes : translator.Writes tree before writings now)
    (failed : translator.translate now source = .error error) (rest : List Path) :
    (translator.translateAll tree (before ++ source :: rest)).1 = .error error := by
  induction writes with
  | nil =>
    rw [List.nil_append, translateAll, failed]
  | @cons tree after now first text before writings rendered written _ ih =>
    have translated : translator.translate tree first = .ok (translator.outputPath first, after) := by
      rw [translate, rendered]
      dsimp only
      rw [written]
    rw [List.cons_append, translateAll, translated]
    dsimp only
    rw [ih failed]
    rfl

theorem display_of_ok {shown text : String} (named : shown ≠ tokensName)
    (rendered : translator.rendering tree source = .ok text) :
    ∃ events, translator.display tree source shown = ⟨.finished text, events, tree⟩ := by
  unfold display inspect
  rw [if_neg named, rendered]
  exact ⟨_, rfl⟩

theorem display_of_error {shown : String} (named : shown ≠ tokensName)
    (failed : translator.rendering tree source = .error error) :
    ∃ events, translator.display tree source shown = ⟨.failed (.source error), events, tree⟩ := by
  unfold display inspect
  rw [if_neg named, failed]
  exact ⟨_, rfl⟩

theorem ending_build_iff {folder : Path} {extension : String} {sources : List Path}
    (found : discover tree folder extension = .ok sources) :
    (translator.build tree folder extension).ending = .failed (.source error) ↔
      (translator.translateAll tree sources).1 = .error error := by
  unfold build
  rw [found]
  cases sources with
  | nil => exact ⟨nofun, nofun⟩
  | cons first rest =>
    dsimp only
    cases (translator.translateAll tree (first :: rest)).1 with
    | ok => exact ⟨nofun, nofun⟩
    | error => simp

end Translator

/-! Invocations. -/

namespace Invocation
variable {invocation : Invocation} {tree : FileTree} {folder source : Path} {settings : Settings}
  {translator : Translator} {before rest : List Path}

/-- The invocation that shows a source, with the same options. -/
def showing (invocation : Invocation) (source : Path) : Invocation := { invocation with task := .inspect source }

theorem run_showing (loaded : Settings.load tree invocation.sources = .ok settings)
    (chosen : Translator.ofSettings settings = .ok translator) (rendered : invocation.format ≠ some tokensName)
    (source : Path) : ∃ shown, shown ≠ tokensName ∧
      (invocation.showing source).run tree = .ended (translator.display tree source shown) := by
  refine ⟨invocation.format.getD settings.format, ?_, ?_⟩
  · cases given : invocation.format with
    | some format =>
      rintro rfl
      exact rendered given
    | none =>
      rcases Translator.format_of_ofSettings chosen with ⟨named, _⟩ | ⟨named, _⟩
      all_goals
        rw [Option.getD_none, named]
        decide
  · have same : Settings.load tree (invocation.showing source).sources = .ok settings := loaded
    unfold run
    rw [same]
    dsimp only
    rw [chosen]
    rfl

theorem Finds.resolve (finds : invocation.Finds tree folder settings translator (before ++ source :: rest)) :
    ∃ location, tree.resolve source = .ok location := by
  have isFile : tree.isFile source = true := discover_isFile finds.found source (by simp)
  obtain ⟨location, _, _, resolved, _⟩ := FileTree.isFile_iff.mp isFile
  exact ⟨location, resolved⟩

theorem shown_of_translated (finds : invocation.Finds tree folder settings translator (before ++ source :: rest))
    (rendered : invocation.format ≠ some tokensName) {writings : List (Path × String)} {now later : FileTree}
    {output : Path} (writes : translator.Writes tree before writings now)
    (translated : translator.translate now source = .ok (output, later)) :
    ∃ text events time, (invocation.showing source).run tree = .ended ⟨.finished text, events, tree⟩ ∧
      output = translator.outputPath source ∧ now.write output text = .ok later ∧
      later.entry output = .ok (.file text.toUTF8 time) := by
  obtain ⟨rfl, text, renders, written⟩ := Translator.translate_eq_ok translated
  obtain ⟨document, found, rfl⟩ := Translator.rendering_eq_ok renders
  obtain ⟨location, resolved⟩ := finds.resolve
  have first := writes.document_eq finds.chosen resolved found
  obtain ⟨shown, named, shows⟩ := run_showing finds.loaded finds.chosen rendered source
  obtain ⟨events, displayed⟩ := Translator.display_of_ok named (Translator.rendering_of_document first)
  rw [displayed] at shows
  obtain ⟨time, held⟩ := Translator.entry_written written
  exact ⟨_, events, time, shows, rfl, written, held⟩

/-- A build does not get past a source that cannot be read or is refused. -/
theorem exitCode_build_refused (finds : invocation.Finds tree folder settings translator (before ++ source :: rest))
    {error : SourceError} (failed : translator.document tree source = .error error) :
    (translator.build tree folder settings.extension).ending.exitCode = 1 := by
  obtain ⟨location, resolved⟩ := finds.resolve
  obtain ⟨code, finished, _⟩ := translator.build_filled finds.found (by simp)
  refine code.resolve_left fun zero => ?_
  obtain ⟨last, translates⟩ := finished.mp zero
  obtain ⟨writings, now, output, after, writes, translated⟩ := translates.comes
  obtain ⟨_, text, renders, _⟩ := Translator.translate_eq_ok translated
  obtain ⟨document, found, _⟩ := Translator.rendering_eq_ok renders
  cases failed.symm.trans (writes.document_eq finds.chosen resolved found)

/-- A build that comes to a source with nothing in its place reports what is wrong with the source. -/
theorem ending_build_refused (finds : invocation.Finds tree folder settings translator (before ++ source :: rest))
    {error : SourceError} (failed : translator.document tree source = .error error) {writings : List (Path × String)}
    {now : FileTree} (writes : translator.Writes tree before writings now)
    (apart : ∀ earlier ∈ before, tree.resolve (translator.outputPath earlier) ≠ tree.resolve source) :
    (translator.build tree folder settings.extension).ending = .failed (.source error) := by
  obtain ⟨location, resolved⟩ := finds.resolve
  have same : now.entry source = tree.entry source := by
    rcases writes.entry_or resolved with same | ⟨⟨earlier, member, met⟩, _⟩
    · exact same
    · exact absurd (met.trans resolved.symm) (apart earlier member)
  have again : translator.document now source = .error error := (Translator.document_congr same).trans failed
  have fails := Translator.rendering_eq_error (Translator.rendering_of_document_error again)
  exact (Translator.ending_build_iff finds.found).mpr (writes.stops fails.translate_eq rest)

/-- What is shown of a source is what a build writes, if it translates the source. A source that cannot be read or is
refused ends both with a failure. It is the same failure unless a source before it fails, or has its output in the place
of the source. -/
theorem shown_as_built (building : invocation.task = .build folder)
    (finds : invocation.Finds tree folder settings translator (before ++ source :: rest))
    (rendered : invocation.format ≠ some tokensName) :
    (∀ writings now output later, translator.Writes tree before writings now →
      translator.translate now source = .ok (output, later) →
      ∃ text events time, (invocation.showing source).run tree = .ended ⟨.finished text, events, tree⟩ ∧
        output = translator.outputPath source ∧ now.write output text = .ok later ∧
        later.entry output = .ok (.file text.toUTF8 time)) ∧
    ∀ error, translator.document tree source = .error error →
      ∃ events outcome, (invocation.showing source).run tree = .ended ⟨.failed (.source error), events, tree⟩ ∧
        invocation.run tree = .ended outcome ∧ outcome.ending.exitCode = 1 ∧
        ∀ writings now, translator.Writes tree before writings now →
          (∀ earlier ∈ before, tree.resolve (translator.outputPath earlier) ≠ tree.resolve source) →
          outcome.ending = .failed (.source error) := by
  constructor
  · intro writings now output later writes translated
    exact shown_of_translated finds rendered writes translated
  · intro error failed
    obtain ⟨shown, named, shows⟩ := run_showing finds.loaded finds.chosen rendered source
    obtain ⟨events, displayed⟩ := Translator.display_of_error named (Translator.rendering_of_document_error failed)
    rw [displayed] at shows
    refine ⟨events, _, shows, finds.run building, exitCode_build_refused finds failed, ?_⟩
    intro writings now writes apart
    exact ending_build_refused finds failed writes apart

/-- The first source is translated and can be shown; the second is refused by both. -/
theorem shown_as_built_stopped :
    let tree : FileTree :=
      ⟨[(["a.codl"], .file "ROUTE a".toUTF8 0), (["b.codl"], .file "USING b".toUTF8 1)], [], 2⟩
    ∃ invocation outcome error, ofArguments ["build", "-d", ""] = .ok invocation ∧
      (∃ text events, (invocation.showing ⟨"a.codl"⟩).run tree = .ended ⟨.finished text, events, tree⟩) ∧
      (∃ events, (invocation.showing ⟨"b.codl"⟩).run tree = .ended ⟨.failed (.source error), events, tree⟩) ∧
      invocation.run tree = .ended outcome ∧ outcome.ending = .failed (.source error) := by
  intro tree
  let invocation : Invocation := ⟨none, none, none, false, .build ⟨""⟩⟩
  let translator : Translator := ⟨.rust Format.defaultRegistry, .permissive⟩
  have loaded : Settings.load tree invocation.sources =
      .ok ⟨.permissive, "codl", "rust", Format.defaultRegistry, 1000⟩ := eq_ok_of_toOption (by decide +kernel)
  have found : discover tree ⟨""⟩ "codl" = .ok [⟨"a.codl"⟩, ⟨"b.codl"⟩] :=
    Search.discover_all ["a.codl", "b.codl"] (by simp [Search.IsPlain]) (by decide) (by decide +kernel)
      (by decide +kernel) (by decide +kernel) (by decide +kernel) (by decide +kernel) (by decide +kernel)
  have first : invocation.Finds tree ⟨""⟩ _ translator ([] ++ ⟨"a.codl"⟩ :: [⟨"b.codl"⟩]) := ⟨loaded, rfl, found⟩
  have second : invocation.Finds tree ⟨""⟩ _ translator ([⟨"a.codl"⟩] ++ ⟨"b.codl"⟩ :: []) := ⟨loaded, rfl, found⟩
  have rendered : invocation.format ≠ some tokensName := by decide
  have refused : translator.document tree ⟨"b.codl"⟩ = .error (.refused ⟨"b.codl"⟩ "USING b"
      (.grammar ⟨.usingOutsideDoes, .top, "USING", ⟨0, 0⟩⟩)) := by decide +kernel
  have translates : (translator.translate tree ⟨"a.codl"⟩).toOption.isSome = true := by decide +kernel
  have apart : tree.resolve (translator.outputPath ⟨"a.codl"⟩) ≠ tree.resolve ⟨"b.codl"⟩ := by decide +kernel
  obtain ⟨_, now, translated, writes⟩ := Translator.exists_writes translates
  obtain ⟨shown, events, _, finished, _⟩ := (shown_as_built rfl first rendered).1 [] tree _ now .nil translated
  obtain ⟨others, outcome, failed, ran, _, same⟩ := (shown_as_built rfl second rendered).2 _ refused
  exact ⟨invocation, outcome, _, rfl, ⟨shown, events, finished⟩, ⟨others, failed⟩, ran,
    same _ now writes (by simpa using apart)⟩

/-- With the extension of the format for the sources, the output of the first source takes the place of the second, and
the build reports what is wrong with the output. -/
theorem not_shown_as_built :
    let tree : FileTree := ⟨[([".rs"], .file "ROUTE a\n".toUTF8 0), ([".rs.rs"], .file "USING\n".toUTF8 1),
      (["codl.toml"], .file "build.source_extension = 'rs'\n".toUTF8 2)], [], 3⟩
    ∃ invocation settings translator writings now events outcome error,
      ofArguments ["build", "-d", ""] = .ok invocation ∧
      invocation.Finds tree ⟨""⟩ settings translator [⟨".rs"⟩, ⟨".rs.rs"⟩] ∧
      translator.Writes tree [⟨".rs"⟩] writings now ∧ translator.document tree ⟨".rs.rs"⟩ = .error error ∧
      (invocation.showing ⟨".rs.rs"⟩).run tree = .ended ⟨.failed (.source error), events, tree⟩ ∧
      invocation.run tree = .ended outcome ∧ outcome.ending ≠ .failed (.source error) := by
  intro tree
  let invocation : Invocation := ⟨none, none, none, false, .build ⟨""⟩⟩
  let translator : Translator := ⟨.rust Format.defaultRegistry, .permissive⟩
  have loaded : Settings.load tree invocation.sources =
      .ok ⟨.permissive, "rs", "rust", Format.defaultRegistry, 1000⟩ := eq_ok_of_toOption (by decide +kernel)
  have listed : tree.names ⟨"."⟩ = [".rs", ".rs.rs", "codl.toml"] := by decide +kernel
  have names : Search.sortedNames tree ⟨"."⟩ = [".rs", ".rs.rs", "codl.toml"] := by
    rw [Search.sortedNames, listed]
    exact List.mergeSort_of_pairwise (by decide)
  have found : discover tree ⟨""⟩ "rs" = .ok ([⟨".rs"⟩, ⟨".rs.rs"⟩].mergeSort Path.le) :=
    Search.discover_here (by simp [Search.IsPlain]) (by decide) (by decide +kernel) names (by decide +kernel)
  rw [List.mergeSort_of_pairwise (by decide +kernel)] at found
  have finds : invocation.Finds tree ⟨""⟩ _ translator [⟨".rs"⟩, ⟨".rs.rs"⟩] := ⟨loaded, rfl, found⟩
  have refused : translator.document tree ⟨".rs.rs"⟩ = .error (.refused ⟨".rs.rs"⟩ "USING\n"
      (.grammar ⟨.usingOutsideDoes, .top, "USING", ⟨0, 0⟩⟩)) := by decide +kernel
  obtain ⟨shown, named, shows⟩ := run_showing finds.loaded finds.chosen (by decide) ⟨".rs.rs"⟩
  obtain ⟨events, displayed⟩ := Translator.display_of_error named (Translator.rendering_of_document_error refused)
  rw [displayed] at shows
  have differs : (translator.translateAll tree [⟨".rs"⟩, ⟨".rs.rs"⟩]).1 ≠ .error (.refused ⟨".rs.rs"⟩ "USING\n"
      (.grammar ⟨.usingOutsideDoes, .top, "USING", ⟨0, 0⟩⟩)) := by decide +kernel
  have translates : (translator.translate tree ⟨".rs"⟩).toOption.isSome = true := by decide +kernel
  obtain ⟨_, now, _, writes⟩ := Translator.exists_writes translates
  exact ⟨invocation, _, translator, _, now, _, _, _, rfl, finds, writes, refused, shows, finds.run rfl,
    fun same => differs ((Translator.ending_build_iff found).mp same)⟩

end Invocation
end RouteDoc
