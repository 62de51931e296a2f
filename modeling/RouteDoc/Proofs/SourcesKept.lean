import RouteDoc.Command.Run
import RouteDoc.Proofs.FoundFiles

/-! What a build leaves alone. An output ends with the extension of the format, so it is none of the sources as
long as the search for them finds no name with that ending; each translation then keeps every source, and so does
the whole run, wherever it stops. -/

namespace RouteDoc
open RouteDoc.Path

/-- A search for one extension finds no name that ends with the other. -/
def KeepsApart (extension other : String) : Prop :=
  ∀ part, Pattern.compile ("*." ++ extension) = .ok part → ∀ name, Pattern.covers part name = true →
    ¬ '.' :: other.toList <:+ name

/-- Extensions without wildcards are kept apart unless one of them ends like the other. -/
theorem keepsApart_of_plain {extension other : String} (plain : ∀ c ∈ extension.toList, Search.IsPlain c)
    (dotless : '.' ∉ other.toList) (differs : extension ≠ other)
    (ends : ¬ '.' :: other.toList <:+ extension.toList) : KeepsApart extension other := by
  intro part compiles name covered suffix
  have below := Search.suffix_of_covers plain compiles covered
  rcases List.suffix_or_suffix_of_suffix below suffix with shorter | shorter
  · rcases List.suffix_cons_iff.mp shorter with same | inside
    · exact differs (String.toList_inj.mp (List.cons.inj same).2)
    · exact dotless (inside.subset List.mem_cons_self)
  · rcases List.suffix_cons_iff.mp shorter with same | inside
    · exact differs (String.toList_inj.mp (List.cons.inj same).2).symm
    · exact ends inside

/-! Where outputs are written. -/

theorem stem_initial (name : List Char) : Path.stem name <+: name := by
  unfold Path.stem
  split
  next dot c rest same =>
    have dropped : name.reverse.dropWhile (· ≠ '.') <:+ name.reverse := List.dropWhile_suffix _
    rw [same] at dropped
    have inside := (List.suffix_cons dot (c :: rest)).trans dropped
    rwa [← List.reverse_prefix, List.reverse_reverse] at inside
  next => exact List.prefix_rfl

theorem stem_ne_nil {name : List Char} (filled : name ≠ []) : Path.stem name ≠ [] := by
  unfold Path.stem
  split
  · simp
  · exact filled

/-- The extension of a path is replaced at the name that it ends with. Without that name, what is left is the
folder above. -/
theorem Path.EndsIn.withExtension {path : Path} {head name : List Char} {extension : String}
    (ends : path.EndsIn head name) (filled : extension ≠ "") (whole : '/' ∉ extension.toList) :
    (path.withExtension extension).text.toList = head ++ ['.', '.'] ∨
      (path.withExtension extension).EndsIn head (Path.stem name ++ '.' :: extension.toList) := by
  unfold Path.withExtension
  rw [ends.headAndName?]
  dsimp only
  split
  next dot =>
    left
    simp [dot.1]
  next =>
    right
    refine ⟨by simp, ends.slash, ?_⟩
    have solid : '/' ∉ Path.stem name := fun member => ends.isName.2.2.2 ((stem_initial name).subset member)
    have stemmed := List.length_pos_iff.mpr (stem_ne_nil ends.isName.1)
    have extended : 0 < extension.toList.length := List.length_pos_iff.mpr (by simpa using filled)
    have long (short : List Char) (few : short.length ≤ 2) : Path.stem name ++ '.' :: extension.toList ≠ short := by
      rintro rfl
      rw [List.length_append, List.length_cons] at few
      omega
    refine ⟨long _ (by decide), long _ (by decide), long _ (by decide), ?_⟩
    simp [solid, whole]

namespace Translator
variable {translator : Translator} {tree after : FileTree} {part : List Wildcard}

/-- The extension of a format that can be chosen. -/
theorem extension_of_ofSettings {settings : Settings} (chosen : ofSettings settings = .ok translator) :
    translator.format.extension = "rs" ∨ translator.format.extension = "json" := by
  unfold ofSettings Catalog.get at chosen
  split at chosen
  · cases chosen
  next format found =>
    obtain rfl := Except.ok.inj chosen
    split at found
    next got =>
      obtain rfl := Except.ok.inj found
      simp only [Catalog.defaults, Catalog.get?_register] at got
      split at got
      · exact .inl (congrArg Format.extension (Option.some.inj got).symm)
      split at got
      · exact .inr (congrArg Format.extension (Option.some.inj got).symm)
      split at got
      · exact .inl (congrArg Format.extension (Option.some.inj got).symm)
      · cases got
    next => cases found

/-- What a translation does: it renders its source as it finds it, and writes the output. -/
theorem translate_eq_ok {source output : Path} (translated : translator.translate tree source = .ok (output, after)) :
    output = translator.outputPath source ∧ ∃ text, translator.rendering tree source = .ok text ∧
      tree.write output text = .ok after := by
  unfold Translator.translate at translated
  split at translated
  · cases translated
  next text renders =>
    dsimp only at translated
    split at translated
    · cases translated
    next written =>
      obtain ⟨rfl, rfl⟩ := Prod.mk.inj (Except.ok.inj translated)
      exact ⟨rfl, text, renders, written⟩

/-- An extension that outputs can have: it is not empty, and it is kept apart from that of the sources. -/
structure Outputs (translator : Translator) (part : List Wildcard) : Prop where
  filled : translator.format.extension ≠ ""
  whole : '/' ∉ translator.format.extension.toList
  apart : ∀ name, Pattern.covers part name = true → ¬ '.' :: translator.format.extension.toList <:+ name

/-- No output is one of the files that are searched for. -/
theorem Outputs.outputPath_ne (outputs : translator.Outputs part) {file source : Path} (selected : file.Selected part)
    (listed : source.Selected part) : translator.outputPath file ≠ source := by
  obtain ⟨head, name, ends, _⟩ := selected
  obtain ⟨folder, other, inside, covered⟩ := listed
  rintro rfl
  rcases ends.withExtension outputs.filled outputs.whole with above | replaced
  · obtain ⟨front, pieces⟩ := pieces_append above ends.slash (by decide)
    obtain ⟨back, others⟩ := inside.pieces
    have last := List.append_inj_right' (pieces.symm.trans others) rfl
    exact inside.isName.2.2.1 (String.ofList_injective (List.singleton_inj.mp last)).symm
  · obtain ⟨_, rfl⟩ := inside.unique replaced
    exact outputs.apart _ covered (List.suffix_append ..)

/-- A translation keeps what is searched for, whether its own source or another. -/
theorem Outputs.translate (outputs : translator.Outputs part) (proper : tree.Proper) {source output : Path}
    (selected : source.Selected part) (translated : translator.translate tree source = .ok (output, after)) :
    after.Proper ∧ ∀ (path : Path) (entry : Entry), path.Selected part → tree.entry path = .ok entry →
      after.entry path = .ok entry := by
  obtain ⟨head, name, ends, _⟩ := selected
  obtain ⟨rfl, text, _, written⟩ := translate_eq_ok translated
  refine ⟨proper.write written, ?_⟩
  rintro path entry ⟨folder, other, inside, covered⟩ found
  rcases ends.withExtension outputs.filled outputs.whole with above | replaced
  · exact absurd written (proper.not_write_above above ends.slash)
  · refine FileTree.entry_write written inside replaced ?_ found
    rintro rfl
    exact outputs.apart _ covered (List.suffix_append ..)

/-- A run keeps what is searched for, also where it stops. -/
theorem Outputs.translateAll (outputs : translator.Outputs part) (proper : tree.Proper) {sources : List Path}
    (selected : ∀ source ∈ sources, source.Selected part) (path : Path) (entry : Entry) (wanted : path.Selected part)
    (found : tree.entry path = .ok entry) : (translator.translateAll tree sources).2.entry path = .ok entry := by
  induction sources generalizing tree with
  | nil => exact found
  | cons source sources ih =>
    obtain ⟨first, others⟩ := List.forall_mem_cons.mp selected
    unfold Translator.translateAll
    split
    · exact found
    next output after translated =>
      obtain ⟨proper, kept⟩ := outputs.translate proper first translated
      exact ih proper others (kept path entry wanted found)

end Translator

/-- What the check of settings accepts, it leaves as it is. -/
theorem Settings.check_eq_ok {settings checked : Settings} (accepted : settings.check = .ok checked) :
    checked = settings ∧ (settings.extension ≠ "" ∧ ∀ c ∈ settings.extension.toList, isReserved c = false) ∧
      Text.allBlank settings.registry = false ∧ settings.period ≠ 0 := by
  unfold Settings.check at accepted
  split at accepted
  · cases accepted
  next plain =>
    split at accepted
    · cases accepted
    next filled =>
      split at accepted
      · cases accepted
      next regular => exact ⟨(Except.ok.inj accepted).symm, by simpa using plain, by simpa using filled, regular⟩

/-- What the check of settings refuses in an extension. -/
theorem Settings.unreserved_of_check {settings checked : Settings} (accepted : settings.check = .ok checked) :
    checked.extension ≠ "" ∧ ∀ c ∈ checked.extension.toList, isReserved c = false := by
  obtain ⟨rfl, plain, _⟩ := check_eq_ok accepted
  exact plain

theorem Settings.whole_of_check {settings checked : Settings} (accepted : settings.check = .ok checked) :
    '/' ∉ checked.extension.toList :=
  fun slash => absurd ((unreserved_of_check accepted).2 '/' slash) (by decide)

theorem exists_of_bind_eq_ok {ε α β : Type} {first : Except ε α} {next : α → Except ε β} {result : β}
    (done : first >>= next = .ok result) : ∃ middle, first = .ok middle ∧ next middle = .ok result := by
  cases first with
  | error => cases done
  | ok middle => exact ⟨middle, rfl, done⟩

/-- The extension in settings that were loaded leads to no other folder. -/
theorem Settings.whole_of_load {tree : FileTree} {sources : List SettingsSource} {settings : Settings}
    (loaded : Settings.load tree sources = .ok settings) : '/' ∉ settings.extension.toList := by
  obtain ⟨table, _, made⟩ := exists_of_bind_eq_ok loaded
  obtain ⟨read, _, accepted⟩ := exists_of_bind_eq_ok made
  exact whole_of_check accepted

/-- No build writes to a file that it has found as a source, and every source is as it was afterwards, if the
search for sources finds no name with the extension of the format. -/
theorem Translator.build_keeps {configured tree : FileTree} {given : List SettingsSource} {settings : Settings}
    {translator : Translator} {folder : Path} {files : List Path}
    (loaded : Settings.load configured given = .ok settings) (chosen : ofSettings settings = .ok translator)
    (proper : tree.Proper) (apart : KeepsApart settings.extension translator.format.extension)
    (found : discover tree folder settings.extension = .ok files) :
    ∀ source ∈ files, (∀ file ∈ files, translator.outputPath file ≠ source) ∧
      ∃ content time, tree.entry source = .ok (.file content time) ∧
        (translator.build tree folder settings.extension).tree.entry source = .ok (.file content time) := by
  obtain ⟨part, compiles, selected⟩ := Search.selected_of_discover proper (Settings.whole_of_load loaded) found
  have outputs : translator.Outputs part := by
    refine ⟨?_, ?_, apart part compiles⟩
    all_goals
      rcases extension_of_ofSettings chosen with extension | extension
      all_goals
        rw [extension]
        decide
  intro source member
  obtain ⟨isFile, wanted⟩ := selected source member
  refine ⟨fun file listed => outputs.outputPath_ne (selected file listed).2 wanted, ?_⟩
  unfold FileTree.isFile at isFile
  split at isFile
  next content time entry =>
    refine ⟨content, time, entry, ?_⟩
    have kept := outputs.translateAll proper (fun file listed => (selected file listed).2) source _ wanted entry
    unfold Translator.build
    rw [found]
    cases files with
    | nil => exact entry
    | cons first rest => exact kept
  next => cases isFile

/-- The second source is refused, after the first was translated. -/
theorem Translator.build_keeps_stopped :
    let tree : FileTree :=
      ⟨[(["a.codl"], .file "ROUTE a".toUTF8 0), (["b.codl"], .file "USING b".toUTF8 1)], [], 2⟩
    ∃ settings translator, Settings.load tree [] = .ok settings ∧ ofSettings settings = .ok translator ∧
      discover tree ⟨""⟩ settings.extension = .ok [⟨"a.codl"⟩, ⟨"b.codl"⟩] ∧
      ∀ source ∈ [Path.mk "a.codl", ⟨"b.codl"⟩],
        (∀ file ∈ [Path.mk "a.codl", ⟨"b.codl"⟩], translator.outputPath file ≠ source) ∧
        ∃ content time, tree.entry source = .ok (.file content time) ∧
          (translator.build tree ⟨""⟩ settings.extension).tree.entry source = .ok (.file content time) := by
  intro tree
  have loaded : Settings.load tree [] = .ok ⟨.permissive, "codl", "rust", Format.defaultRegistry, 1000⟩ := rfl
  have chosen : ofSettings ⟨.permissive, "codl", "rust", Format.defaultRegistry, 1000⟩ =
    .ok ⟨.rust Format.defaultRegistry, .permissive⟩ := rfl
  have proper : tree.Proper := ⟨by decide +kernel, by simp [tree, FileTree.lookup], rfl⟩
  have listed : tree.names ⟨"."⟩ = ["a.codl", "b.codl"] := by decide +kernel
  have names : Search.sortedNames tree ⟨"."⟩ = ["a.codl", "b.codl"] := by
    rw [Search.sortedNames, listed]
    exact List.mergeSort_of_pairwise (by decide)
  have found : discover tree ⟨""⟩ "codl" = .ok ([⟨"a.codl"⟩, ⟨"b.codl"⟩].mergeSort Path.le) :=
    Search.discover_here (by simp [Search.IsPlain]) (by decide) (by decide +kernel) names (by decide +kernel)
  rw [List.mergeSort_of_pairwise (by decide +kernel)] at found
  have apart : KeepsApart "codl" "rs" :=
    keepsApart_of_plain (by simp [Search.IsPlain]) (by decide) (by decide) (by decide)
  exact ⟨_, _, loaded, chosen, found, build_keeps loaded chosen proper apart found⟩

theorem eq_ok_of_toOption {ε α : Type} {result : Except ε α} {value : α} (same : result.toOption = some value) :
    result = .ok value := by
  cases result with
  | error => cases same
  | ok => exact congrArg Except.ok (Option.some.inj same)

/-- With the extension of the format for the sources, a source is its own output. -/
theorem Translator.build_overwrites :
    let tree : FileTree :=
      ⟨[(["a.rs"], .file "ROUTE a".toUTF8 0), (["codl.toml"], .file "build.source_extension = 'rs'".toUTF8 0)], [], 1⟩
    ∃ settings translator, Settings.load tree [.project ⟨"."⟩] = .ok settings ∧ ofSettings settings = .ok translator ∧
      tree.Proper ∧ discover tree ⟨""⟩ settings.extension = .ok [⟨"a.rs"⟩] ∧
      translator.outputPath ⟨"a.rs"⟩ = ⟨"a.rs"⟩ ∧
      (translator.build tree ⟨""⟩ settings.extension).tree.entry ⟨"a.rs"⟩ ≠ tree.entry ⟨"a.rs"⟩ := by
  intro tree
  have loaded : Settings.load tree [.project ⟨"."⟩] =
      .ok ⟨.permissive, "rs", "rust", Format.defaultRegistry, 1000⟩ := eq_ok_of_toOption (by decide +kernel)
  have chosen : ofSettings ⟨.permissive, "rs", "rust", Format.defaultRegistry, 1000⟩ =
      .ok ⟨.rust Format.defaultRegistry, .permissive⟩ := rfl
  have proper : tree.Proper := ⟨by decide +kernel, by simp [tree, FileTree.lookup], rfl⟩
  have listed : tree.names ⟨"."⟩ = ["a.rs", "codl.toml"] := by decide +kernel
  have names : Search.sortedNames tree ⟨"."⟩ = ["a.rs", "codl.toml"] := by
    rw [Search.sortedNames, listed]
    exact List.mergeSort_of_pairwise (by decide)
  have found : discover tree ⟨""⟩ "rs" = .ok ([⟨"a.rs"⟩].mergeSort Path.le) :=
    Search.discover_here (by simp [Search.IsPlain]) (by decide) (by decide +kernel) names (by decide +kernel)
  rw [List.mergeSort_singleton] at found
  have itself : (Translator.mk (.rust Format.defaultRegistry) .permissive).outputPath ⟨"a.rs"⟩ = ⟨"a.rs"⟩ := by
    decide +kernel
  refine ⟨_, _, loaded, chosen, proper, found, itself, ?_⟩
  have bytes {after : FileTree} {path : Path} (same : after.entry path = tree.entry path) :
      after.readBytes path = tree.readBytes path := by
    unfold FileTree.readBytes
    rw [same]
  intro same
  rw [build, found] at same
  exact absurd (congrArg (fun read => read.toOption.map ByteArray.size) (bytes same)) (by decide +kernel)

end RouteDoc
