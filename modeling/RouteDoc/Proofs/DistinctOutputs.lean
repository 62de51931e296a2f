import RouteDoc.Proofs.BuildOutcomes
import RouteDoc.Proofs.FolderSearch

/-! Outputs of their own. An output has the name of its source up to the last dot, which is also the label of the
source. Sources with different labels never meet: neither do their outputs, nor is the output of the one the other.
Among names with one extension only two can share a label, as a dot at the start of a name begins no extension. -/

namespace RouteDoc

/-- Whether a path ends with a name. -/
def Path.Named (path : Path) (name : List Char) : Prop := ∃ head, path.EndsIn head name

namespace Path
variable {path : Path} {name other : List Char} {extension : String}

/-! Stems. -/

/-- What follows the last dot of a text. -/
theorem exists_last_dot {cs : List Char} (dotted : '.' ∈ cs) :
    ∃ front last, cs = front ++ '.' :: last ∧ '.' ∉ last := by
  obtain ⟨after, before, reversed, dotless⟩ := List.eq_append_cons_of_mem (List.mem_reverse.mpr dotted)
  refine ⟨before.reverse, after.reverse, ?_, by simpa using dotless⟩
  rw [← List.reverse_inj, reversed]
  simp

theorem stem_of_last_dot (front : List Char) {last : List Char} (dotless : '.' ∉ last) :
    stem (front ++ '.' :: last) = if front = [] then '.' :: last else front := by
  have plain : ∀ c ∈ last.reverse, (decide (c ≠ '.')) = true := by
    intro c member
    rw [decide_eq_true_eq]
    rintro rfl
    exact dotless (List.mem_reverse.mp member)
  have reversed : (front ++ '.' :: last).reverse = last.reverse ++ '.' :: front.reverse := by simp
  unfold stem
  rw [reversed, List.dropWhile_append_of_pos plain, List.dropWhile_cons_of_neg (by simp)]
  rcases List.eq_nil_or_concat front with rfl | ⟨front, c, rfl⟩
  · rfl
  · simp

/-- A name that is nothing but a dot and what follows it has the extension only if it is the extension. -/
theorem hidden_of_suffix {ending last : List Char} (ends : '.' :: ending <:+ '.' :: last) (dotless : '.' ∉ last) :
    ending = last := by
  rcases List.suffix_cons_iff.mp ends with same | within
  · exact (List.cons.inj same).2
  · exact absurd (within.subset List.mem_cons_self) dotless

/-- Names with the same extension have different stems, but for the extension alone and the extension twice. -/
theorem eq_or_hidden_of_stem {ending : List Char} (ends : '.' :: ending <:+ name) (also : '.' :: ending <:+ other)
    (same : stem name = stem other) : name = other ∨ '.' ∉ ending ∧
      (name = '.' :: ending ∧ other = '.' :: ending ++ '.' :: ending ∨
        other = '.' :: ending ∧ name = '.' :: ending ++ '.' :: ending) := by
  -- What follows the last dot of the extension also follows the last dot of both names.
  obtain ⟨lead, last, split, dotless⟩ := exists_last_dot (@List.mem_cons_self _ '.' ending)
  have within : '.' :: last <:+ '.' :: ending := ⟨lead, split.symm⟩
  obtain ⟨front, rfl⟩ := within.trans ends
  obtain ⟨start, rfl⟩ := within.trans also
  rw [stem_of_last_dot front dotless, stem_of_last_dot start dotless] at same
  by_cases blank : front = []
  · by_cases empty : start = []
    · left
      rw [blank, empty]
    · rw [if_pos blank, if_neg empty] at same
      rw [blank, List.nil_append] at ends
      obtain rfl := hidden_of_suffix ends dotless
      exact .inr ⟨dotless, .inl ⟨by rw [blank]; rfl, by rw [← same]⟩⟩
  · by_cases empty : start = []
    · rw [if_neg blank, if_pos empty] at same
      rw [empty, List.nil_append] at also
      obtain rfl := hidden_of_suffix also dotless
      exact .inr ⟨dotless, .inr ⟨by rw [empty]; rfl, by rw [same]⟩⟩
    · rw [if_neg blank, if_neg empty] at same
      left
      rw [same]

theorem stem_twice {ending : List Char} (dotless : '.' ∉ ending) :
    stem ('.' :: ending ++ '.' :: ending) = stem ('.' :: ending) := by
  have hidden := stem_of_last_dot [] dotless
  rw [if_pos rfl, List.nil_append] at hidden
  rw [hidden, stem_of_last_dot _ dotless, if_neg (List.cons_ne_nil _ _)]

/-! Names of outputs. -/

/-- The name of an output. A source without anything but dots before its extension leaves the folder above. -/
def outputName (extension : String) (name : List Char) : List Char :=
  if stem name = ['.'] then ['.', '.'] else stem name ++ '.' :: extension.toList

theorem stem_of_outputName (filled : extension ≠ "") (present : name ≠ []) (existing : other ≠ [])
    (same : outputName extension name = outputName extension other) : stem name = stem other := by
  have long (cs : List Char) (some : stem cs ≠ []) : stem cs ++ '.' :: extension.toList ≠ ['.', '.'] := by
    intro short
    have length := congrArg List.length short
    have stemmed := List.length_pos_iff.mpr some
    have extended : 0 < extension.toList.length := List.length_pos_iff.mpr (by simpa using filled)
    rw [List.length_append, List.length_cons] at length
    simp only [List.length_cons, List.length_nil] at length
    omega
  unfold outputName at same
  split at same
  next dot =>
    split at same
    next dots => exact dot.trans dots.symm
    next => exact absurd same.symm (long other (stem_ne_nil existing))
  next =>
    split at same
    next => exact absurd same (long name (stem_ne_nil present))
    next => exact List.append_cancel_right same

/-- An output is none of the names with other stems. -/
theorem outputName_ne (dotless : '.' ∉ extension.toList) (present : name ≠ []) (isName : IsName other)
    (differs : stem name ≠ stem other) : outputName extension name ≠ other := by
  rintro rfl
  unfold outputName at isName differs
  split at isName
  next => exact isName.2.2.1 rfl
  next undotted =>
    rw [if_neg undotted, stem_of_last_dot _ dotless, if_neg (stem_ne_nil present)] at differs
    exact differs rfl

theorem EndsIn.text_withExtension {head : List Char} (ends : path.EndsIn head name) (filled : extension ≠ "") :
    (path.withExtension extension).text.toList = head ++ outputName extension name := by
  unfold Path.withExtension outputName
  rw [ends.headAndName?]
  dsimp only
  by_cases dot : stem name = ['.']
  · rw [if_pos ⟨dot, ends.text⟩, if_pos dot, String.toList_ofList, dot, List.append_assoc]
    rfl
  · rw [if_neg fun both => dot both.1, if_neg filled, if_neg dot]
    simp

theorem EndsIn.parts_withExtension {head : List Char} (ends : path.EndsIn head name) (filled : extension ≠ "")
    (whole : '/' ∉ extension.toList) :
    (path.withExtension extension).parts.getLast? = some (String.ofList (outputName extension name)) := by
  have solid : '/' ∉ outputName extension name := by
    unfold outputName
    split
    · decide
    · have stemmed : '/' ∉ stem name := fun member => ends.isName.2.2.2 ((stem_initial name).subset member)
      simp [stemmed, whole]
  have leads : leadsOn (String.ofList (outputName extension name)) = true := by
    have blank : outputName extension name ≠ [] := by
      unfold outputName
      split <;> simp
    have here : outputName extension name ≠ ['.'] := by
      unfold outputName
      split
      · decide
      · obtain ⟨c, cs, same⟩ := List.exists_cons_of_ne_nil (stem_ne_nil ends.isName.1)
        simp [same]
    simp only [leadsOn, Bool.and_eq_true, bne_iff_ne]
    exact ⟨fun same => blank (by simpa using congrArg String.toList same),
      fun same => here (by simpa using congrArg String.toList same)⟩
  obtain ⟨front, pieces⟩ := pieces_append (ends.text_withExtension filled) ends.slash solid
  exact getLast?_parts pieces leads

theorem eq_of_text {first second : Path} (same : first.text.toList = second.text.toList) : first = second := by
  obtain ⟨text⟩ := first
  exact congrArg Path.mk (String.toList_inj.mp same)

theorem EndsIn.label {head : List Char} (ends : path.EndsIn head name) : path.label = String.ofList (stem name) := by
  unfold Path.label
  rw [ends.headAndName?]

end Path

/-! Runs. -/

namespace Translator
variable {translator : Translator} {tree after last : FileTree} {source path : Path} {sources : List Path}
  {head name folder other : List Char} {entry : Entry}

/-- A format with an extension that outputs can have: a single one, which leads to no other folder. -/
structure Extends (translator : Translator) : Prop where
  filled : translator.format.extension ≠ ""
  whole : '/' ∉ translator.format.extension.toList
  dotless : '.' ∉ translator.format.extension.toList

theorem extends_of_ofSettings {settings : Settings} (chosen : ofSettings settings = .ok translator) :
    translator.Extends := by
  refine ⟨?_, ?_, ?_⟩
  all_goals
    rcases extension_of_ofSettings chosen with extension | extension
    all_goals
      rw [extension]
      decide

theorem rendering_congr (same : after.entry source = tree.entry source) :
    translator.rendering after source = translator.rendering tree source := by
  unfold rendering document FileTree.readText FileTree.readBytes
  rw [same]

/-- A translation writes a file with the name of the output. -/
theorem Extends.translate (extending : translator.Extends) (proper : tree.Proper) (ends : source.EndsIn head name)
    {output : Path} (translated : translator.translate tree source = .ok (output, after)) :
    ∃ text, translator.rendering tree source = .ok text ∧ tree.write (translator.outputPath source) text = .ok after ∧
      (translator.outputPath source).EndsIn head (Path.outputName translator.format.extension name) := by
  obtain ⟨rfl, text, renders, written⟩ := translate_eq_ok translated
  refine ⟨text, renders, written, ?_⟩
  rcases ends.withExtension extending.filled extending.whole with above | replaced
  · exact absurd written (proper.not_write_above above ends.slash)
  · have same := ends.text_withExtension extending.filled
    rw [replaced.text] at same
    rw [← List.append_cancel_left same]
    exact replaced

/-- A run keeps what a path leads to, if no output has the name at its end. -/
theorem TranslatesAll.keeps (extending : translator.Extends) (proper : tree.Proper)
    (translates : translator.TranslatesAll tree sources last) (ends : path.EndsIn folder other)
    (apart : ∀ source ∈ sources, ∃ head name, source.EndsIn head name ∧
      Path.outputName translator.format.extension name ≠ other)
    (found : tree.entry path = .ok entry) : last.entry path = .ok entry := by
  induction translates with
  | nil => exact found
  | cons translated _ ih =>
    obtain ⟨⟨head, name, inside, differs⟩, others⟩ := List.forall_mem_cons.mp apart
    obtain ⟨text, _, written, replaced⟩ := extending.translate proper inside translated
    exact ih (proper.write written) others (FileTree.entry_write written ends replaced differs.symm found)

theorem entry_written {text : String} (written : tree.write path text = .ok after) :
    ∃ time, after.entry path = .ok (.file text.toUTF8 time) := by
  obtain ⟨location, resolved, free, same⟩ := FileTree.write_eq_ok written
  refine ⟨tree.clock, FileTree.entry_eq_ok.mpr ⟨location, ?_, ?_⟩⟩
  · exact ((FileTree.WrittenAt.write written).resolve_iff path location).mpr resolved
  · have rooted : location ≠ [] := by
      rintro rfl
      exact free rfl
    rw [same]
    change (tree.put location (.file text.toUTF8 tree.clock)).lookup location = _
    rw [FileTree.lookup_put, if_pos ⟨rooted, rfl⟩]

/-- Where no two sources share a label, a run leaves the rendering of each source in its output. -/
theorem TranslatesAll.renders (extending : translator.Extends) (proper : tree.Proper)
    (translates : translator.TranslatesAll tree sources last) (distinct : (sources.map Path.label).Nodup)
    (present : ∀ source ∈ sources, (∃ name, source.Named name) ∧ ∃ entry, tree.entry source = .ok entry) :
    ∀ source ∈ sources, ∃ text time, translator.rendering tree source = .ok text ∧
      last.entry (translator.outputPath source) = .ok (.file text.toUTF8 time) := by
  -- The first translation leaves the other sources alone, and the others leave its output alone.
  induction translates with
  | nil => exact nofun
  | @cons tree after last source output rest translated further ih =>
    obtain ⟨⟨⟨name, head, ends⟩, _⟩, others⟩ := List.forall_mem_cons.mp present
    obtain ⟨unlike, distinct⟩ := List.nodup_cons.mp distinct
    obtain ⟨text, renders, written, replaced⟩ := extending.translate proper ends translated
    have different (path : Path) (member : path ∈ rest) {head' name' : List Char} (inside : path.EndsIn head' name') :
        Path.stem name ≠ Path.stem name' := by
      intro same
      refine unlike (List.mem_map.mpr ⟨path, member, ?_⟩)
      rw [inside.label, ends.label, same]
    have kept (path : Path) (member : path ∈ rest) : after.entry path = tree.entry path := by
      obtain ⟨⟨other, folder, inside⟩, entry, found⟩ := others path member
      rw [found]
      exact FileTree.entry_write written inside replaced
        (Path.outputName_ne extending.dotless ends.isName.1 inside.isName (different path member inside)).symm found
    intro path member
    rcases List.mem_cons.mp member with rfl | member
    · obtain ⟨time, held⟩ := entry_written written
      refine ⟨text, time, renders, ?_⟩
      refine further.keeps extending (proper.write written) replaced ?_ held
      intro path member
      obtain ⟨⟨other, folder, inside⟩, _⟩ := others path member
      refine ⟨folder, other, inside, fun same => different path member inside ?_⟩
      exact (Path.stem_of_outputName extending.filled inside.isName.1 ends.isName.1 same).symm
    · obtain ⟨text', time, again, held⟩ := ih (proper.write written) distinct
        (fun path member => ⟨(others path member).1, by rw [kept path member]; exact (others path member).2⟩) path member
      exact ⟨text', time, (rendering_congr (kept path member)).symm.trans again, held⟩

/-! Builds. -/

theorem nodup_map_iff {β : Type} {inside : Path} {names : List String} {files : List Path} (distinct : names.Nodup)
    (listed : files.Perm (names.map (Search.extend inside))) (aspect : Path → β) :
    (files.map aspect).Nodup ↔ ∀ first ∈ names, ∀ second ∈ names,
      aspect (Search.extend inside first) = aspect (Search.extend inside second) → first = second := by
  rw [(listed.map aspect).nodup_iff, List.map_map, List.nodup_map_iff_inj_on distinct]
  rfl

/-- What a search for an extension without wildcards finds: files in one folder, under different names that all end
with the extension. -/
theorem discover_names (proper : tree.Proper) (single : tree.Single) {folder : Path} {extension : String}
    (plain : ∀ c ∈ extension.toList, Search.IsPlain c) (whole : '/' ∉ extension.toList) {files : List Path}
    (found : discover tree folder extension = .ok files) :
    ∃ inside, ∃ names : List String, names.Nodup ∧ files.Perm (names.map (Search.extend inside)) ∧
      (∀ name ∈ names, IsName name.toList ∧ '.' :: extension.toList <:+ name.toList) ∧
      ∀ file ∈ files, tree.isFile file = true := by
  obtain ⟨part, compiles, rfl⟩ := (Search.discover_ok_iff single whole).mp found
  refine ⟨folder.reached, (Search.matching tree folder part).filter (tree.isFile ∘ Search.extend folder.reached), ?_, ?_,
    ?_, ?_⟩
  · exact (Search.nodup_matching single folder part).filter _
  · rw [← List.filter_map]
    exact List.mergeSort_perm _ _
  · intro name member
    have matched := (List.mem_filter.mp member).1
    exact ⟨Search.isName_of_mem_matching proper matched,
      Search.suffix_of_covers plain compiles (Search.covers_of_mem_matching matched)⟩
  · intro file member
    rw [List.mem_mergeSort] at member
    exact (List.mem_filter.mp member).2

/-- Sources in one folder have the same output exactly if they share a stem. -/
theorem parts_outputPath_iff (extending : translator.Extends) {inside : Path} {first second : String}
    (isName : IsName first.toList) (isOther : IsName second.toList) :
    (translator.outputPath (Search.extend inside first)).parts =
      (translator.outputPath (Search.extend inside second)).parts ↔
      Path.stem first.toList = Path.stem second.toList := by
  obtain ⟨head, ends⟩ := Path.head_extend inside
  constructor
  · intro same
    have last := congrArg List.getLast? same
    unfold outputPath at last
    rw [(ends first isName).parts_withExtension extending.filled extending.whole,
      (ends second isOther).parts_withExtension extending.filled extending.whole] at last
    exact Path.stem_of_outputName extending.filled isName.1 isOther.1 (String.ofList_injective (Option.some.inj last))
  · intro same
    have texts : (translator.outputPath (Search.extend inside first)).text.toList =
        (translator.outputPath (Search.extend inside second)).text.toList := by
      unfold outputPath
      rw [(ends first isName).text_withExtension extending.filled,
        (ends second isOther).text_withExtension extending.filled, Path.outputName, Path.outputName, same]
    rw [Path.eq_of_text texts]

/-- The outputs of the sources that are found are all different exactly if the extension alone and the extension twice
are not both among the names, or the extension holds a dot. Then a build that finishes leaves in the output of each
source what that source says. -/
theorem build_outputs (proper : tree.Proper) (single : tree.Single) {settings : Settings}
    (chosen : ofSettings settings = .ok translator) {folder : Path} {extension : String}
    (plain : ∀ c ∈ extension.toList, Search.IsPlain c) (whole : '/' ∉ extension.toList) {files : List Path}
    (found : discover tree folder extension = .ok files) :
    ((files.map fun file => (translator.outputPath file).parts).Nodup ↔
      ¬ ('.' ∉ extension.toList ∧ (∃ file ∈ files, file.Named ('.' :: extension.toList)) ∧
        ∃ file ∈ files, file.Named ('.' :: extension.toList ++ '.' :: extension.toList))) ∧
    ((files.map fun file => (translator.outputPath file).parts).Nodup →
      (translator.build tree folder extension).ending.exitCode = 0 → ∀ source ∈ files,
        ∃ text time, translator.rendering tree source = .ok text ∧
          (translator.build tree folder extension).tree.entry (translator.outputPath source) =
            .ok (.file text.toUTF8 time)) := by
  obtain ⟨inside, names, distinct, listed, named, isFile⟩ := discover_names proper single plain whole found
  have extending := extends_of_ofSettings chosen
  obtain ⟨head, ends⟩ := Path.head_extend inside
  have unlike : (files.map fun file => (translator.outputPath file).parts).Nodup ↔
      ∀ first ∈ names, ∀ second ∈ names, Path.stem first.toList = Path.stem second.toList → first = second := by
    rw [nodup_map_iff distinct listed]
    constructor
    · intro apart first member second also same
      exact apart first member second also
        ((parts_outputPath_iff extending (named first member).1 (named second also).1).mpr same)
    · intro apart first member second also same
      exact apart first member second also
        ((parts_outputPath_iff extending (named first member).1 (named second also).1).mp same)
  have nameOf (file : Path) (member : file ∈ files) : ∃ name ∈ names, file.EndsIn head name.toList := by
    obtain ⟨name, among, rfl⟩ := List.mem_map.mp (listed.mem_iff.mp member)
    exact ⟨name, among, ends name (named name among).1⟩
  constructor
  · rw [unlike]
    constructor
    · rintro apart ⟨dotless, ⟨file, member, _, alone⟩, ⟨other, also, _, twice⟩⟩
      obtain ⟨first, among, ended⟩ := nameOf file member
      obtain ⟨second, beside, repeated⟩ := nameOf other also
      have hidden := (ended.unique alone).2
      have again := (repeated.unique twice).2
      have same := apart first among second beside (by rw [hidden, again, Path.stem_twice dotless])
      rw [← same, hidden] at again
      simpa using congrArg List.length again
    · intro apart first member second also same
      rcases Path.eq_or_hidden_of_stem (named first member).2 (named second also).2 same with equal | ⟨dotless, hidden⟩
      · exact String.toList_inj.mp equal
      · have present (name : String) (among : name ∈ names) : ∃ file ∈ files, file.Named name.toList :=
          ⟨_, listed.mem_iff.mpr (List.mem_map_of_mem among), head, ends name (named name among).1⟩
        refine absurd ⟨dotless, ?_⟩ apart
        rcases hidden with ⟨alone, twice⟩ | ⟨alone, twice⟩
        · exact ⟨alone ▸ present first member, twice ▸ present second also⟩
        · exact ⟨alone ▸ present second also, twice ▸ present first member⟩
  · intro apart code source member
    have labels : (files.map Path.label).Nodup := by
      rw [nodup_map_iff distinct listed]
      intro first among second also same
      rw [(ends first (named first among).1).label, (ends second (named second also).1).label] at same
      exact unlike.mp apart first among second also (String.ofList_injective same)
    obtain ⟨_, finished, left⟩ := translator.build_filled found (List.ne_nil_of_mem member)
    obtain ⟨last, translates⟩ := finished.mp code
    rw [left, translates.tree_eq]
    refine translates.renders extending proper labels ?_ source member
    intro file member
    obtain ⟨name, _, ended⟩ := nameOf file member
    obtain ⟨location, content, time, resolved, held⟩ := FileTree.isFile_iff.mp (isFile file member)
    exact ⟨⟨_, head, ended⟩, _, FileTree.entry_eq_ok.mpr ⟨location, resolved, held⟩⟩

/-- A hidden name and names with several dots, with outputs of their own. -/
theorem build_outputs_dotted :
    let tree : FileTree := ⟨[([".codl"], .file "ROUTE a".toUTF8 0), (["a.b.codl"], .file "ROUTE b".toUTF8 1),
      (["a.codl"], .file "ROUTE c".toUTF8 2)], [], 3⟩
    ∃ settings translator files, ofSettings settings = .ok translator ∧ tree.Proper ∧ tree.Single ∧
      discover tree ⟨""⟩ "codl" = .ok files ∧ files = [⟨".codl"⟩, ⟨"a.b.codl"⟩, ⟨"a.codl"⟩] ∧
      (files.map fun file => (translator.outputPath file).parts).Nodup ∧
      (translator.build tree ⟨""⟩ "codl").ending.exitCode = 0 ∧ ∀ source ∈ files,
        ∃ text time, translator.rendering tree source = .ok text ∧
          (translator.build tree ⟨""⟩ "codl").tree.entry (translator.outputPath source) =
            .ok (.file text.toUTF8 time) := by
  intro tree
  let translator : Translator := ⟨.rust Format.defaultRegistry, .permissive⟩
  have chosen : ofSettings ⟨.permissive, "codl", "rust", Format.defaultRegistry, 1000⟩ = .ok translator := rfl
  have proper : tree.Proper := ⟨by decide +kernel, by simp [tree, FileTree.lookup], rfl⟩
  have single : tree.Single := by decide +kernel
  have found : discover tree ⟨""⟩ "codl" = .ok [⟨".codl"⟩, ⟨"a.b.codl"⟩, ⟨"a.codl"⟩] :=
    Search.discover_all [".codl", "a.b.codl", "a.codl"] (by simp [Search.IsPlain]) (by decide) (by decide +kernel)
      (by decide +kernel) (by decide +kernel) (by decide +kernel) (by decide +kernel) (by decide +kernel)
  have apart : ([Path.mk ".codl", ⟨"a.b.codl"⟩, ⟨"a.codl"⟩].map fun file => (translator.outputPath file).parts).Nodup := by
    decide +kernel
  have outputs : (translator.translateAll tree [⟨".codl"⟩, ⟨"a.b.codl"⟩, ⟨"a.codl"⟩]).1 =
      .ok [⟨".codl.rs"⟩, ⟨"a.b.rs"⟩, ⟨"a.rs"⟩] := eq_ok_of_toOption (by decide +kernel)
  have code : (translator.build tree ⟨""⟩ "codl").ending.exitCode = 0 :=
    (translator.build_filled found (List.cons_ne_nil _ _)).2.1.mpr (translateAll_ok_iff.mp ⟨_, outputs⟩)
  have holds := build_outputs proper single chosen (by simp [Search.IsPlain]) (by decide) found
  exact ⟨_, translator, _, chosen, proper, single, found, rfl, apart, code, holds.2 apart code⟩

/-- The extension alone and the extension twice have one output, and the second source has the last word. -/
theorem build_outputs_hidden :
    let tree : FileTree :=
      ⟨[([".codl"], .file "ROUTE a".toUTF8 0), ([".codl.codl"], .file "ROUTE other".toUTF8 1)], [], 2⟩
    ∃ settings translator, ofSettings settings = .ok translator ∧
      discover tree ⟨""⟩ "codl" = .ok [⟨".codl"⟩, ⟨".codl.codl"⟩] ∧
      translator.outputPath ⟨".codl"⟩ = translator.outputPath ⟨".codl.codl"⟩ ∧
      (translator.build tree ⟨""⟩ "codl").ending.exitCode = 0 ∧
      ¬ ∃ text time, translator.rendering tree ⟨".codl"⟩ = .ok text ∧
        (translator.build tree ⟨""⟩ "codl").tree.entry (translator.outputPath ⟨".codl"⟩) =
          .ok (.file text.toUTF8 time) := by
  intro tree
  let translator : Translator := ⟨.rust Format.defaultRegistry, .permissive⟩
  have found : discover tree ⟨""⟩ "codl" = .ok [⟨".codl"⟩, ⟨".codl.codl"⟩] :=
    Search.discover_all [".codl", ".codl.codl"] (by simp [Search.IsPlain]) (by decide) (by decide +kernel)
      (by decide +kernel) (by decide +kernel) (by decide +kernel) (by decide +kernel) (by decide +kernel)
  have outputs : (translator.translateAll tree [⟨".codl"⟩, ⟨".codl.codl"⟩]).1 =
      .ok [⟨".codl.rs"⟩, ⟨".codl.rs"⟩] := eq_ok_of_toOption (by decide +kernel)
  obtain ⟨_, finished, left⟩ := translator.build_filled found (List.cons_ne_nil _ _)
  have chosen : ofSettings ⟨.permissive, "codl", "rust", Format.defaultRegistry, 1000⟩ = .ok translator := rfl
  refine ⟨_, translator, chosen, found, by decide +kernel, finished.mpr (translateAll_ok_iff.mp ⟨_, outputs⟩), ?_⟩
  rintro ⟨text, time, renders, held⟩
  rw [left] at held
  have sizes : (translator.rendering tree ⟨".codl"⟩).toOption.map (·.toUTF8.size) ≠
      ((translator.translateAll tree [⟨".codl"⟩, ⟨".codl.codl"⟩]).2.readBytes
        (translator.outputPath ⟨".codl"⟩)).toOption.map (·.size) := by decide +kernel
  refine sizes ?_
  unfold FileTree.readBytes
  rw [renders, held]
  rfl

end Translator
end RouteDoc
