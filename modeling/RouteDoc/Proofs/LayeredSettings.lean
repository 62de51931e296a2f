import Mathlib
import RouteDoc.Proofs.MergedTables
import RouteDoc.Proofs.SourcesKept

/-! Settings from several sources. Files are put over each other in their order and single settings over all of them,
so every leaf has the last value that is given directly, or the value in the last file that has one, or the one that
is built in. -/

namespace RouteDoc.Settings
open Setting

variable {tree : FileTree} {source : SettingsSource} {sources other : List SettingsSource} {layers : List Layer}
  {table : Setting} {leaf : Leaf}

/-! Files. -/

/-- Puts layers over the settings so far. -/
def putLayers (table : Setting) (layers : List Layer) : Setting :=
  layers.foldl (fun table layer => table.putFile layer.source layer.fields) table

theorem sectioned_builtIn : builtIn.Sectioned := by
  intro leaf
  cases leaf <;> exact ⟨_, rfl, _, _, rfl⟩

theorem in?_builtIn (leaf : Leaf) : leaf.in? builtIn = some (.single leaf.builtIn none) := by
  cases leaf <;> rfl

/-- Layers over a table: each leaf is as in the last layer that says anything of it. -/
theorem sectioned_putLayers (sectioned : table.Sectioned) (plain : ∀ layer ∈ layers, layer.Plain) :
    (putLayers table layers).Sectioned ∧ ∀ leaf : Leaf,
      leaf.in? (putLayers table layers) = (layers.reverse.findSome? leaf.inLayer?).or (leaf.in? table) := by
  induction layers generalizing table with
  | nil => exact ⟨sectioned, fun _ => rfl⟩
  | cons layer layers ih =>
    obtain ⟨first, others⟩ := List.forall_mem_cons.mp plain
    obtain ⟨put, said⟩ := sectioned.putFile first
    obtain ⟨last, later⟩ := ih put others
    refine ⟨last, fun leaf => ?_⟩
    change leaf.in? (putLayers (table.putFile layer.source layer.fields) layers) = _
    rw [later, said, ← Option.or_assoc, List.reverse_cons, List.findSome?_append, List.findSome?_singleton]

/-- What becomes of the settings so far when one source is read. -/
theorem putFiles_cons {first : List Layer} (adds : Adds tree source first) (table : Setting)
    (rest : List SettingsSource) :
    putFiles tree table (source :: rest) = putFiles tree (putLayers table first) rest := by
  cases adds with
  | given => rfl
  | lacking missing =>
    rw [putFiles, putProject, missing]
    rfl
  | unreadable found unread =>
    rw [putFiles, putProject, found]
    dsimp only
    rw [unread]
    rfl
  | project found read parsed =>
    rw [putFiles, putProject, found]
    dsimp only
    rw [read]
    dsimp only
    rw [putFile, parsed]
    rfl
  | file found read parsed =>
    rw [putFiles, putNamed, found]
    dsimp only
    rw [read]
    dsimp only
    rw [putFile, parsed]
    rfl

theorem Reads.putFiles_eq (reads : Reads tree sources layers) (table : Setting) :
    putFiles tree table sources = .ok (putLayers table layers) := by
  induction reads generalizing table with
  | nil => rfl
  | cons adds _ ih =>
    rw [putFiles_cons adds, ih]
    exact congrArg _ List.foldl_append.symm

/-- What is read last is put over everything that was read before. -/
theorem Reads.snoc {last : List Layer} (reads : Reads tree sources layers) (adds : Adds tree source last) :
    Reads tree (sources ++ [source]) (layers ++ last) := by
  induction reads with
  | nil => simpa using Reads.cons adds .nil
  | cons first _ ih =>
    rw [List.append_assoc]
    exact .cons first ih

/-! Single settings. -/

theorem dotted_inj {first second : Leaf} : first.dotted = second.dotted ↔ first = second := by
  cases first <;> cases second <;> decide

theorem ofText?_dotted (leaf : Leaf) :
    KeyPath.ofText? leaf.dotted = some [.name leaf.sort.key, .name leaf.key] := by
  cases leaf <;> decide +kernel

theorem leads_iff {first second : Leaf} :
    first.hasSort second.sort.key = true ∧ first.hasKey second.key = true ↔ first = second := by
  rw [Leaf.hasSort, Leaf.hasKey, second.lowercase_sort, second.lowercase_key]
  cases first <;> cases second <;> decide

theorem given?_append (leaf : Leaf) (first second : List SettingsSource) :
    leaf.given? (first ++ second) = (leaf.given? second).or (leaf.given? first) := by
  unfold Leaf.given?
  rw [List.reverse_append, List.findSome?_append]

theorem given?_cons (leaf : Leaf) (source : SettingsSource) (rest : List SettingsSource) :
    leaf.given? (source :: rest) = (leaf.given? rest).or (leaf.given? [source]) := given?_append leaf [source] rest

theorem given?_of_file (leaf : Leaf) (file : source.isGiven = false) : leaf.given? [source] = none := by
  cases source with
  | given => cases file
  | project => rfl
  | file => rfl

/-- A leaf that is given directly is put over a table. -/
theorem sectioned_putAt_leaf (sectioned : table.Sectioned) (leaf : Leaf) (value : Scalar) :
    (putAt (.single value none) [.name leaf.sort.key, .name leaf.key] table).Sectioned ∧ ∀ other : Leaf,
      other.in? (putAt (.single value none) [.name leaf.sort.key, .name leaf.key] table) =
        if leaf = other then some (.single value none) else other.in? table := by
  obtain ⟨part, found, _⟩ := sectioned leaf
  rw [putAt_inside _ _ (List.cons_ne_nil _ _), leaf.lowercase_sort, found, Option.getD_some, putAt, put_single]
  refine ⟨sectioned.set _ fun _ _ => isTable_set _ _ _, fun other => ?_⟩
  rw [Leaf.in?_set]
  by_cases same : leaf = other
  · subst same
    obtain ⟨sort, key⟩ := leads_iff.mpr (rfl : leaf = leaf)
    rw [if_pos sort, if_pos rfl, Leaf.get?_set_key, if_pos key]
  · rw [if_neg same]
    split
    next sort =>
      have apart : ¬ other.hasKey leaf.key = true := fun key => same (leads_iff.mp ⟨sort, key⟩).symm
      have shared : other.sort.key = leaf.sort.key := by rw [← eq_of_beq sort, leaf.lowercase_sort]
      rw [Leaf.get?_set_key, if_neg apart, Leaf.in?, shared, found]
      rfl
    next => rfl

/-- Single settings over a table: each leaf is as it was given last. -/
theorem sectioned_putGiven (sectioned : table.Sectioned)
    (leaves : ∀ key value, .given key value ∈ sources → ∃ leaf : Leaf, key = leaf.dotted) :
    ∃ single, given sources = .ok single ∧ (putGiven table single).Sectioned ∧
      ∀ leaf : Leaf, leaf.in? (putGiven table single) = (leaf.given? sources).or (leaf.in? table) := by
  induction sources generalizing table with
  | nil => exact ⟨[], rfl, sectioned, fun _ => rfl⟩
  | cons source rest ih =>
    have others : ∀ key value, .given key value ∈ rest → ∃ leaf : Leaf, key = leaf.dotted :=
      fun key value member => leaves key value (List.mem_cons_of_mem _ member)
    cases source with
    | project folder =>
      obtain ⟨single, same, last, later⟩ := ih sectioned others
      refine ⟨single, same, last, fun leaf => ?_⟩
      rw [later, given?_cons, given?_of_file leaf rfl, Option.or_none]
    | file path =>
      obtain ⟨single, same, last, later⟩ := ih sectioned others
      refine ⟨single, same, last, fun leaf => ?_⟩
      rw [later, given?_cons, given?_of_file leaf rfl, Option.or_none]
    | given key value =>
      obtain ⟨leaf, rfl⟩ := leaves key value List.mem_cons_self
      obtain ⟨put, changed⟩ := sectioned_putAt_leaf sectioned leaf value
      obtain ⟨single, same, last, later⟩ := ih put others
      refine ⟨([.name leaf.sort.key, .name leaf.key], value) :: single, ?_, last, fun other => ?_⟩
      · rw [given, ofText?_dotted]
        dsimp only
        rw [same]
        rfl
      · rw [putGiven, later, changed, given?_cons, Option.or_assoc]
        congr 1
        simp only [Leaf.given?, List.reverse_singleton, List.findSome?_singleton, dotted_inj]
        split
        · rfl
        · rfl

/-! All sources. -/

/-- Files and single settings are told apart, so that only the order among the files and the order among the others
counts. -/
theorem putFiles_filter (table : Setting) (sources : List SettingsSource) :
    putFiles tree table sources = putFiles tree table (sources.filter (!·.isGiven)) := by
  induction sources generalizing table with
  | nil => rfl
  | cons source rest ih =>
    cases source with
    | given key value => exact ih table
    | project folder =>
      rw [List.filter_cons_of_pos rfl, putFiles, putFiles]
      cases putProject tree table folder with
      | error => rfl
      | ok later => exact ih later
    | file path =>
      rw [List.filter_cons_of_pos rfl, putFiles, putFiles]
      cases putNamed tree table path with
      | error => rfl
      | ok later => exact ih later

theorem given_filter (sources : List SettingsSource) : given sources = given (sources.filter (·.isGiven)) := by
  induction sources with
  | nil => rfl
  | cons source rest ih =>
    cases source with
    | given key value =>
      rw [List.filter_cons_of_pos rfl, given, given, ih]
    | project folder => exact ih
    | file path => exact ih

theorem tableOf_congr (files : other.filter (!·.isGiven) = sources.filter (!·.isGiven))
    (singles : other.filter (·.isGiven) = sources.filter (·.isGiven)) : tableOf tree other = tableOf tree sources := by
  rw [tableOf, tableOf, putFiles_filter, given_filter, files, singles, ← putFiles_filter, ← given_filter]

theorem slotAt_eq (sectioned : table.Sectioned) {value : Setting} (found : leaf.in? table = some value) :
    slotAt table leaf = .ok ⟨leaf.dotted, some value, .missingField leaf.key⟩ := by
  obtain ⟨part, there, fields, source, rfl⟩ := sectioned leaf
  rw [Leaf.in?, there] at found
  rw [slotAt, slotOf, there, Option.getD_some, Section.slot, ← found]
  rfl

/-- Settings are read from the leaves alone. -/
theorem ofTable_congr {first second : Setting} (same : ∀ leaf, slotAt first leaf = slotAt second leaf) :
    ofTable first = ofTable second := by
  have dialect : slotOf first .parser "dialect" 0 = slotOf second .parser "dialect" 0 := same .dialect
  have extension : slotOf first .build "source_extension" 0 = slotOf second .build "source_extension" 0 :=
    same .extension
  have format : slotOf first .render "format" 0 = slotOf second .render "format" 0 := same .format
  have registry : slotOf first .render "registry_path" 1 = slotOf second .render "registry_path" 1 := same .registry
  have period : slotOf first .watch "period_ms" 0 = slotOf second .watch "period_ms" 0 := same .period
  rw [ofTable, ofTable, read, read, readSingle, readSingle, readSingle, readRender, readSingle, readSingle, readSingle,
    readRender, dialect, extension, format, registry, period]

theorem slotAt_tableOf (value : Leaf → Setting) (leaf : Leaf) :
    slotAt (Leaf.tableOf value) leaf = .ok ⟨leaf.dotted, some (value leaf), .missingField leaf.key⟩ := by
  refine slotAt_eq ?_ ?_
  · intro leaf
    cases leaf <;> exact ⟨_, rfl, _, _, rfl⟩
  · cases leaf <;> rfl

/-- The table of all settings has the value of each leaf in its place. -/
theorem Reads.tableOf (reads : Reads tree sources layers) (plain : ∀ layer ∈ layers, layer.Plain)
    (leaves : ∀ key value, .given key value ∈ sources → ∃ leaf : Leaf, key = leaf.dotted) :
    ∃ table, Settings.tableOf tree sources = .ok table ∧ ∀ leaf : Leaf,
      slotAt table leaf = .ok ⟨leaf.dotted, some (leaf.value sources layers), .missingField leaf.key⟩ := by
  obtain ⟨filed, said⟩ := sectioned_putLayers sectioned_builtIn plain
  obtain ⟨single, singles, last, told⟩ := sectioned_putGiven filed leaves
  refine ⟨_, ?_, fun leaf => slotAt_eq last ?_⟩
  · rw [Settings.tableOf, singles, reads.putFiles_eq]
    rfl
  · rw [told, said, in?_builtIn, ← Option.or_assoc, Leaf.value, Option.or_some]

/-- Sources that give settings at all have their layers. -/
theorem exists_reads {later : Setting} (put : putFiles tree table sources = .ok later) :
    ∃ layers, Reads tree sources layers := by
  induction sources generalizing table with
  | nil => exact ⟨[], .nil⟩
  | cons source rest ih =>
    suffices added : ∃ first, Adds tree source first by
      obtain ⟨first, adds⟩ := added
      rw [putFiles_cons adds] at put
      obtain ⟨layers, reads⟩ := ih put
      exact ⟨_, .cons adds reads⟩
    cases source with
    | given key value => exact ⟨_, .given⟩
    | project folder =>
      cases found : findFile tree (folder.join projectFile) with
      | none => exact ⟨_, .lacking found⟩
      | some file =>
        cases read : tree.readText file with
        | error => exact ⟨_, .unreadable found read⟩
        | ok text =>
          cases parsed : Toml.parse? text with
          | some fields => exact ⟨_, .project found read parsed⟩
          | none =>
            simp only [putFiles, putProject, found, read, putFile, parsed] at put
            cases put
    | file path =>
      cases found : findFile tree path with
      | none =>
        simp only [putFiles, putNamed, found] at put
        cases put
      | some file =>
        cases read : tree.readText file with
        | error =>
          simp only [putFiles, putNamed, found, read] at put
          cases put
        | ok text =>
          cases parsed : Toml.parse? text with
          | some fields => exact ⟨_, .file found read parsed⟩
          | none =>
            simp only [putFiles, putNamed, found, read, putFile, parsed] at put
            cases put

/-- What a further layer does not say of a leaf stays as it was. -/
theorem value_append (silent : ∀ layer ∈ layers, leaf.inLayer? layer = none) (sources : List SettingsSource)
    (before : List Layer) : leaf.value sources (before ++ layers) = leaf.value sources before := by
  have passed : layers.reverse.findSome? leaf.inLayer? = none := by simpa using silent
  rw [Leaf.value, List.reverse_append, List.findSome?_append, passed, Option.none_or, Leaf.value]

/-- Every leaf is read as it was given last, or else as the last layer has it that has one, or else as it is built in;
so the settings are those of a table with just these values. It makes no difference where among the files a leaf is
given, and a further file that is silent on a leaf leaves it as it was. -/
theorem load_layers (reads : Reads tree sources layers) (plain : ∀ layer ∈ layers, layer.Plain)
    (leaves : ∀ key value, .given key value ∈ sources → ∃ leaf : Leaf, key = leaf.dotted) :
    (∃ table, tableOf tree sources = .ok table ∧ ∀ leaf : Leaf,
      slotAt table leaf = .ok ⟨leaf.dotted, some (leaf.value sources layers), .missingField leaf.key⟩) ∧
    load tree sources = ofTable (Leaf.tableOf fun leaf => leaf.value sources layers) ∧
    (∀ other, other.filter (!·.isGiven) = sources.filter (!·.isGiven) →
      other.filter (·.isGiven) = sources.filter (·.isGiven) → load tree other = load tree sources) ∧
    ∀ source first, Adds tree source first → source.isGiven = false → (∀ layer ∈ first, layer.Plain) →
      ∃ table, tableOf tree (sources ++ [source]) = .ok table ∧ ∀ leaf : Leaf,
        (∀ layer ∈ first, leaf.inLayer? layer = none) →
          slotAt table leaf = .ok ⟨leaf.dotted, some (leaf.value sources layers), .missingField leaf.key⟩ := by
  obtain ⟨table, collected, slots⟩ := reads.tableOf plain leaves
  refine ⟨⟨table, collected, slots⟩, ?_, ?_, ?_⟩
  · rw [load, collected]
    refine ofTable_congr fun leaf => ?_
    rw [slots, slotAt_tableOf]
  · intro other files singles
    rw [load, tableOf_congr files singles, load]
  · intro source first adds file others
    have still : ∀ key value, .given key value ∈ sources ++ [source] → ∃ leaf : Leaf, key = leaf.dotted := by
      intro key value member
      rcases List.mem_append.mp member with before | last
      · exact leaves key value before
      · obtain rfl := List.mem_singleton.mp last
        cases file
    obtain ⟨table, collected, slots⟩ := (reads.snoc adds).tableOf (List.forall_mem_append.mpr ⟨plain, others⟩) still
    refine ⟨table, collected, fun leaf silent => ?_⟩
    rw [slots, value_append silent, Leaf.value, Leaf.value, given?_append, given?_of_file leaf file, Option.none_or]

/-- One file names the format and another the registry, and the dialect is given before them: all of them count. -/
theorem load_layers_given_first :
    let tree : FileTree := ⟨[(["codl.toml"], .file "render.format = 'json'".toUTF8 0),
      (["team.toml"], .file "[render]\nregistry_path = 'api'".toUTF8 0)], [], 1⟩
    let sources : List SettingsSource :=
      [.given "parser.dialect" (.text "strict"), .project ⟨"."⟩, .file ⟨"team.toml"⟩]
    load tree sources = .ok ⟨.strict, "codl", "json", "api", 1000⟩ := by
  intro tree sources
  let first : Layer := ⟨"codl.toml", [("render", .table [("format", .single (.text "json"))])]⟩
  let second : Layer := ⟨"team.toml", [("render", .table [("registry_path", .single (.text "api"))])]⟩
  have project : Adds tree (.project ⟨"."⟩) [first] := by
    have found : findFile tree ((⟨"."⟩ : Path).join projectFile) = some ⟨"./codl.toml"⟩ := by decide +kernel
    have read : tree.readText ⟨"./codl.toml"⟩ = .ok "render.format = 'json'" := eq_ok_of_toOption (by decide +kernel)
    have seen : (⟨"./codl.toml"⟩ : Path).seenFrom tree.workingFolder = "codl.toml" := by decide +kernel
    have added := Adds.project found read (by cbv)
    rw [seen] at added
    exact added
  have named : Adds tree (.file ⟨"team.toml"⟩) [second] := by
    have found : findFile tree ⟨"team.toml"⟩ = some ⟨"team.toml"⟩ := by decide +kernel
    have read : tree.readText ⟨"team.toml"⟩ = .ok "[render]\nregistry_path = 'api'" :=
      eq_ok_of_toOption (by decide +kernel)
    have seen : (⟨"team.toml"⟩ : Path).seenFrom tree.workingFolder = "team.toml" := by decide +kernel
    have added := Adds.file found read (by cbv)
    rw [seen] at added
    exact added
  have reads : Reads tree sources [first, second] := .cons .given (.cons project (.cons named .nil))
  have plain : ∀ layer ∈ [first, second], layer.Plain := by
    intro layer member leaf entry there
    simp only [List.mem_cons, List.not_mem_nil, or_false] at member
    rcases member with rfl | rfl
    · obtain rfl := List.mem_singleton.mp there
      rintro -
      exact ⟨_, rfl, fun field inside _ => ⟨.text "json", by rw [List.mem_singleton.mp inside]⟩⟩
    · obtain rfl := List.mem_singleton.mp there
      rintro -
      exact ⟨_, rfl, fun field inside _ => ⟨.text "api", by rw [List.mem_singleton.mp inside]⟩⟩
  have leaves : ∀ key value, .given key value ∈ sources → ∃ leaf : Leaf, key = leaf.dotted := by
    intro key value member
    simp only [sources, List.mem_cons, reduceCtorEq, List.not_mem_nil, or_false, SettingsSource.given.injEq] at member
    exact ⟨.dialect, member.1⟩
  obtain ⟨_, loaded, _⟩ := load_layers reads plain leaves
  exact loaded.trans (eq_ok_of_toOption (by decide +kernel))

end RouteDoc.Settings
