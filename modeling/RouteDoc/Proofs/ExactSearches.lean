import RouteDoc.Proofs.FolderSearch
import RouteDoc.Proofs.SourcesKept

/-! Exact searches. Between them, the paths that a search gives lead to the files directly inside of the folder whose
names match, to each of them once. For an extension without wildcards these are the files whose names end with it. Of
the wildcards the check of settings refuses only the star, so for the others more may be found, or less. -/

namespace RouteDoc
open RouteDoc.Path

namespace FileTree
variable {tree : FileTree} {folder : Path}

/-- Whether the system finds every entry of a folder under the path of the folder with its name: no such path is too
long. -/
def Readable (tree : FileTree) (folder : Path) : Prop :=
  ∀ location name entry, tree.inside folder = .ok location → tree.lookup (location ++ [name]) = some entry →
    tree.resolve (folder.join name) = .ok (location ++ [name])

/-- Paths to the files directly inside of a folder whose names are wanted: to these files only, to each of them once,
and in their order. -/
structure Lists (tree : FileTree) (folder : Path) (wanted : List Char → Prop) (files : List Path) : Prop where
  sorted : files.Pairwise fun first second => Path.le first second = true
  distinct : (files.map tree.resolve).Nodup
  isFile : ∀ file ∈ files, tree.isFile file = true
  exact : ∀ location, (∃ file ∈ files, tree.resolve file = .ok location) ↔
    ∃ above name content time, tree.inside folder = .ok above ∧ location = above ++ [name] ∧
      tree.lookup location = some (.file content time) ∧ wanted name.toList

theorem Lists.congr {wanted other : List Char → Prop} {files : List Path} (lists : tree.Lists folder wanted files)
    (same : ∀ name, wanted name ↔ other name) : tree.Lists folder other files := by
  obtain rfl : wanted = other := funext fun name => propext (same name)
  exact lists

end FileTree

namespace Search
open Pattern
variable {tree : FileTree} {folder : Path} {part : List Wildcard} {name : String}

/-! Names that match. -/

theorem covers_of_suffix {rest : List Wildcard} {ending : List Char} {cs : List Char} (ends : ending <:+ cs)
    (matched : covers rest ending = true) : covers (.sequence :: rest) cs = true := by
  obtain ⟨front, rfl⟩ := ends
  induction front with
  | nil =>
    cases ending with
    | nil => rwa [List.nil_append, covers_run_nil rfl]
    | cons c ending => rw [List.nil_append, covers_run rfl, matched, Bool.true_or]
  | cons c front ih => rw [List.cons_append, covers_run rfl, ih, Bool.or_true]

/-- The names that match an extension without wildcards are those that end with it. -/
theorem covers_iff_suffix {extension : String} (plain : ∀ c ∈ extension.toList, IsPlain c) (name : List Char) :
    covers (.sequence :: ('.' :: extension.toList).map .char) name = true ↔ '.' :: extension.toList <:+ name :=
  ⟨suffix_of_covers plain (compile_plain plain), fun ends => covers_of_suffix ends (covers_map_self (fun _ => rfl) beq_self_eq_true _)⟩

/-! Files that are found. -/

/-- A name whose path leads to a file is the name of a file directly inside of the folder. -/
theorem inside_of_mem_matching (proper : tree.Proper) (moving : folder.stalls = false)
    (member : name ∈ matching tree folder part) (isFile : tree.isFile (extend folder.reached name) = true) :
    ∃ above content time, tree.inside folder = .ok above ∧
      tree.resolve (extend folder.reached name) = .ok (above ++ [name]) ∧
      tree.lookup (above ++ [name]) = some (.file content time) ∧ covers part name.toList = true := by
  obtain ⟨location, content, time, resolved, held⟩ := FileTree.isFile_iff.mp isFile
  obtain ⟨above, rfl, _, _, led⟩ := FileTree.folder_of_reached moving (isName_of_mem_matching proper member) resolved
  exact ⟨above, content, time, led, resolved, held, covers_of_mem_matching member⟩

/-- A file directly inside of the folder is found if its name matches. -/
theorem mem_matching_of_inside (proper : tree.Proper) (readable : tree.Readable folder) (moving : folder.stalls = false)
    {above : Location} {content : ByteArray} {time : Time} (led : tree.inside folder = .ok above)
    (held : tree.lookup (above ++ [name]) = some (.file content time)) (covered : covers part name.toList = true) :
    name ∈ matching tree folder part ∧ tree.resolve (extend folder.reached name) = .ok (above ++ [name]) := by
  have isName : IsName name.toList := proper.names_lookup held name (by simp)
  have resolved := FileTree.resolve_reached moving isName (readable above name _ led held)
  obtain ⟨also, same, reaches, opened, _⟩ := FileTree.folder_of_reached moving isName resolved
  obtain rfl : above = also := List.append_inj_left' same rfl
  have listed : name ∈ tree.names folder.reached :=
    mem_names.mpr ⟨above, reaches, List.mem_map.mpr ⟨_, FileTree.mem_entries_of_lookup held (by simp), rfl⟩⟩
  refine ⟨?_, resolved⟩
  unfold matching
  rw [if_pos ⟨moving, FileTree.isFolder_iff.mpr ⟨above, reaches, opened⟩⟩]
  exact List.mem_filter.mpr ⟨mem_sortedNames.mpr listed, covered⟩

/-- What a search gives are the files directly inside of the folder whose names match. -/
theorem lists_matching (proper : tree.Proper) (single : tree.Single) (readable : tree.Readable folder)
    (moving : folder.stalls = false) (part : List Wildcard) :
    tree.Lists folder (covers part · = true)
      ((((matching tree folder part).map (extend folder.reached)).filter tree.isFile).mergeSort Path.le) := by
  have member (file : Path) :
      file ∈ (((matching tree folder part).map (extend folder.reached)).filter tree.isFile).mergeSort Path.le ↔
        (∃ name ∈ matching tree folder part, extend folder.reached name = file) ∧ tree.isFile file = true := by
    rw [List.mem_mergeSort, List.mem_filter, List.mem_map]
  refine ⟨sorted_mergeSort _, ?_, fun file found => ((member file).mp found).2, ?_⟩
  · rw [((List.mergeSort_perm _ Path.le).map tree.resolve).nodup_iff, List.filter_map, List.map_map]
    refine ((nodup_matching single folder part).filter _).map_on fun name found other also same => ?_
    rw [List.mem_filter, Function.comp] at found also
    obtain ⟨above, _, _, led, resolved, _⟩ := inside_of_mem_matching proper moving found.1 found.2
    obtain ⟨beside, _, _, again, others, _⟩ := inside_of_mem_matching proper moving also.1 also.2
    obtain rfl := Except.ok.inj (led.symm.trans again)
    rw [Function.comp, Function.comp, resolved, others] at same
    exact List.singleton_inj.mp (List.append_inj_right' (Except.ok.inj same) rfl)
  · intro location
    constructor
    · rintro ⟨file, found, resolved⟩
      obtain ⟨⟨name, listed, rfl⟩, isFile⟩ := (member file).mp found
      obtain ⟨above, content, time, led, leads, held, covered⟩ := inside_of_mem_matching proper moving listed isFile
      obtain rfl := Except.ok.inj (leads.symm.trans resolved)
      exact ⟨above, name, content, time, led, rfl, held, covered⟩
    · rintro ⟨above, name, content, time, led, rfl, held, covered⟩
      obtain ⟨found, resolved⟩ := mem_matching_of_inside proper readable moving led held covered
      refine ⟨_, (member _).mpr ⟨⟨name, found, rfl⟩, ?_⟩, resolved⟩
      exact FileTree.isFile_iff.mpr ⟨_, content, time, resolved, held⟩

theorem matching_stalled (stalled : folder.stalls = true) : matching tree folder part = [] := by
  unfold matching
  rw [if_neg]
  simp [stalled]

/-- A search for a checked extension gives the files directly inside of the folder whose names match the star, the dot
and the extension, or fails if that is no pattern. Without wildcards in the extension it always gives the files whose
names end with the dot and the extension. In a folder that is written like `.//` it finds nothing. -/
theorem discover_exact (proper : tree.Proper) (single : tree.Single) {settings checked : Settings}
    (accepted : settings.check = .ok checked) (folder : Path) (readable : tree.Readable folder) :
    ((∃ files, discover tree folder checked.extension = .ok files) ↔
      ∃ part, compile ("*." ++ checked.extension) = .ok part) ∧
    (∀ part files, compile ("*." ++ checked.extension) = .ok part →
      discover tree folder checked.extension = .ok files →
      if folder.stalls then files = [] else tree.Lists folder (covers part · = true) files) ∧
    ('?' ∉ checked.extension.toList → '[' ∉ checked.extension.toList →
      ∃ files, discover tree folder checked.extension = .ok files ∧
        if folder.stalls then files = [] else tree.Lists folder ('.' :: checked.extension.toList <:+ ·) files) := by
  have whole := Settings.whole_of_check accepted
  have lists (part : List Wildcard) :
      let files := (((matching tree folder part).map (extend folder.reached)).filter tree.isFile).mergeSort Path.le
      if folder.stalls then files = [] else tree.Lists folder (covers part · = true) files := by
    intro files
    split
    next stalled =>
      simp only [files, matching_stalled stalled, List.map_nil, List.filter_nil, List.mergeSort_nil]
    next moving => exact lists_matching proper single readable (by simpa using moving) part
  refine ⟨?_, ?_, ?_⟩
  · constructor
    · rintro ⟨files, found⟩
      obtain ⟨part, compiles, _⟩ := (discover_ok_iff single whole).mp found
      exact ⟨part, compiles⟩
    · rintro ⟨part, compiles⟩
      exact ⟨_, (discover_ok_iff single whole).mpr ⟨part, compiles, rfl⟩⟩
  · intro part files compiles found
    obtain ⟨other, also, rfl⟩ := (discover_ok_iff single whole).mp found
    obtain rfl := Except.ok.inj (also.symm.trans compiles)
    exact lists other
  · intro unmarked unset
    have plain : ∀ c ∈ checked.extension.toList, IsPlain c := by
      intro c member
      refine ⟨?_, ?_, ?_⟩
      · rintro rfl
        exact unmarked member
      · rintro rfl
        exact absurd ((Settings.unreserved_of_check accepted).2 '*' member) (by decide)
      · rintro rfl
        exact unset member
    refine ⟨_, (discover_ok_iff single whole).mpr ⟨_, compile_plain plain, rfl⟩, ?_⟩
    have found := lists (.sequence :: ('.' :: checked.extension.toList).map .char)
    dsimp only at found
    split at found
    next stalled => rwa [if_pos stalled]
    next moving =>
      rw [if_neg moving]
      exact found.congr (covers_iff_suffix plain)

/-- The folder has brackets in its name, and another folder in it is called like a file. -/
theorem discover_exact_bracketed :
    let tree : FileTree := ⟨[(["r[1]"], .folder), (["r[1]", "a.codl"], .file "ROUTE a".toUTF8 0),
      (["r[1]", "b.rs"], .file "".toUTF8 1), (["r[1]", "c.codl"], .folder)], [], 2⟩
    ∃ settings files, Settings.check settings = .ok settings ∧ tree.Proper ∧ tree.Single ∧
      tree.Readable ⟨"./r[1]/"⟩ ∧ discover tree ⟨"./r[1]/"⟩ settings.extension = .ok files ∧
      tree.Lists ⟨"./r[1]/"⟩ ('.' :: settings.extension.toList <:+ ·) files := by
  intro tree
  let settings : Settings := ⟨.permissive, "codl", "rust", Format.defaultRegistry, 1000⟩
  have accepted : settings.check = .ok settings := eq_ok_of_toOption (by decide +kernel)
  have proper : tree.Proper := ⟨by decide +kernel, by simp [tree, FileTree.lookup, Keyed.get?], rfl⟩
  have single : tree.Single := by decide +kernel
  have readable : tree.Readable ⟨"./r[1]/"⟩ := by
    intro above name entry led held
    obtain rfl : above = ["r[1]"] := Except.ok.inj (led.symm.trans (eq_ok_of_toOption (by decide +kernel)))
    have listed := List.mem_map_of_mem (f := Prod.fst) (FileTree.mem_entries_of_lookup held (by simp))
    have named : name = "a.codl" ∨ name = "b.rs" ∨ name = "c.codl" := by simpa [tree] using listed
    rcases named with rfl | rfl | rfl
    all_goals exact eq_ok_of_toOption (by decide +kernel)
  obtain ⟨_, _, found⟩ := discover_exact proper single accepted ⟨"./r[1]/"⟩ readable
  obtain ⟨files, found, lists⟩ := found (by decide) (by decide)
  rw [if_neg (by decide +kernel)] at lists
  exact ⟨settings, files, accepted, proper, single, readable, found, lists⟩

/-- A question mark is not refused, and stands for any character: a file without it is found. -/
theorem discover_wild :
    let tree : FileTree := ⟨[(["a.codl"], .file "".toUTF8 0), (["b.c?dl"], .file "".toUTF8 1)], [], 2⟩
    ∃ settings, Settings.check settings = .ok settings ∧ settings.extension = "c?dl" ∧
      discover tree ⟨""⟩ settings.extension = .ok [⟨"a.codl"⟩, ⟨"b.c?dl"⟩] ∧
      ¬ '.' :: settings.extension.toList <:+ "a.codl".toList := by
  intro tree
  let part : List Wildcard := [.sequence, .char '.', .char 'c', .any, .char 'd', .char 'l']
  have single : tree.Single := by decide +kernel
  have compiles : compile ("*." ++ "c?dl") = .ok part := by decide +kernel
  have listed : tree.names ⟨"."⟩ = ["a.codl", "b.c?dl"] := by decide +kernel
  have names : matching tree ⟨""⟩ part = ["a.codl", "b.c?dl"] := by
    unfold matching
    rw [if_pos (by decide +kernel)]
    change (sortedNames tree ⟨"."⟩).filter _ = _
    rw [sortedNames, listed, List.mergeSort_of_pairwise (by decide)]
    decide +kernel
  refine ⟨⟨.permissive, "c?dl", "rust", Format.defaultRegistry, 1000⟩, rfl, rfl, ?_, by decide⟩
  refine (discover_ok_iff single (by decide)).mpr ⟨part, compiles, ?_⟩
  rw [names]
  change _ = (List.filter tree.isFile [⟨"a.codl"⟩, ⟨"b.c?dl"⟩]).mergeSort Path.le
  rw [List.filter_eq_self.mpr (by decide +kernel), List.mergeSort_of_pairwise (by decide +kernel)]

end Search
end RouteDoc
