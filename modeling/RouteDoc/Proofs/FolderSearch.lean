import Mathlib.Data.List.Nodup
import RouteDoc.Proofs.EscapedFolders

/-! Searches in one folder. The name of the folder is escaped, so every part of it stands for one name only. A search
comes to that folder or to none, and finds no file in it twice. -/

namespace RouteDoc

/-- A tree in which no place is listed twice. -/
def FileTree.Single (tree : FileTree) : Prop := (tree.entries.map Prod.fst).Nodup

instance : DecidablePred FileTree.Single := fun _ => inferInstanceAs (Decidable (List.Nodup _))

namespace Search
open Pattern
variable {tree : FileTree}

theorem nodup_names (single : tree.Single) (folder : Path) : (tree.names folder).Nodup := by
  cases resolved : tree.resolve folder with
  | error => simp [FileTree.names, resolved]
  | ok inside =>
    rw [names_eq resolved]
    refine (List.pairwise_map.mp single).filterMap _ ?_
    rintro first second apart name found other also rfl
    exact apart ((nameIn?_eq_some.mp found).trans (nameIn?_eq_some.mp also).symm)

theorem nodup_sortedNames (single : tree.Single) (folder : Path) : (sortedNames tree folder).Nodup :=
  (List.mergeSort_perm _ _).nodup_iff.mpr (nodup_names single folder)

theorem tryName_cases (tree : FileTree) (path : Path) (name : String) :
    tryName tree path name = [] ∨ tryName tree path name = [extend path name] := by
  unfold tryName
  dsimp only
  split
  all_goals
    split
    · exact .inr rfl
    · exact .inl rfl

/-- A part with escaped wildcards, tried on the names in a folder. The folder itself and the one above it have no
wildcards in their names. -/
theorem tryNames_cases (single : tree.Single) {cs : List Char} (wild : plain? (cs.map literal) = none) (path : Path) :
    tryNames tree path (cs.map literal) = [] ∨
      tryNames tree path (cs.map literal) = [extend path (String.ofList cs)] := by
  have undotted : dotNames (cs.map literal) = [] := by
    unfold dotNames
    split
    · rw [List.filter_eq_nil_iff]
      intro name dots covered
      obtain rfl := covers_map isRun_literal accepts_literal covered
      simp only [List.mem_cons, List.not_mem_nil, or_false] at dots
      rcases dots with rfl | rfl <;> cases wild
    · rfl
  unfold tryNames
  split
  next =>
    rw [undotted, List.map_nil, List.nil_append]
    have distinct := (nodup_sortedNames single path).filter (covers (cs.map literal) ·.toList)
    have same : ∀ name ∈ (sortedNames tree path).filter (covers (cs.map literal) ·.toList),
        name = String.ofList cs := by
      intro name member
      rw [← covers_map isRun_literal accepts_literal (List.mem_filter.mp member).2, String.ofList_toList]
    cases found : (sortedNames tree path).filter (covers (cs.map literal) ·.toList) with
    | nil => exact .inl rfl
    | cons first others =>
      rw [found] at distinct same
      obtain ⟨rfl, further⟩ := List.forall_mem_cons.mp same
      cases others with
      | nil => exact .inr rfl
      | cons second =>
        have twice := further second List.mem_cons_self
        exact absurd twice.symm (List.rel_of_pairwise_cons distinct List.mem_cons_self)
  next => exact .inl rfl

theorem tryNames_literal (single : tree.Single) {path : Path} {name : String}
    (wild : plain? (name.toList.map literal) = none) (opened : tree.isFolder path = true)
    (named : name ∈ sortedNames tree path) : tryNames tree path (name.toList.map literal) = [extend path name] := by
  have member : extend path name ∈ tryNames tree path (name.toList.map literal) := by
    unfold tryNames
    rw [if_pos opened]
    have matched : name ∈ (sortedNames tree path).filter (covers (name.toList.map literal) ·.toList) :=
      List.mem_filter.mpr ⟨named, covers_literal name.toList⟩
    exact List.mem_append_right _ (List.mem_map.mpr ⟨name, matched, rfl⟩)
  rcases tryNames_cases single wild path with none | some
  · rw [none] at member
    cases member
  · rwa [String.ofList_toList] at some

/-- A part of a pattern that stands for one name leads on to one path, if to any. -/
theorem expand_literal (single : tree.Single) (cs : List Char) (rest : List (List Wildcard)) (path : Path) :
    expand tree false (cs.map literal :: rest) path = [] ∨
      expand tree false (cs.map literal :: rest) path = expand tree false rest (extend path (String.ofList cs)) := by
  have onward {tried : List Path} {next : Path} (few : tried = [] ∨ tried = [next]) :
      tried.flatMap (expand tree false rest) = [] ∨
        tried.flatMap (expand tree false rest) = expand tree false rest next := by
    rcases few with rfl | rfl
    · exact .inl rfl
    · exact .inr (List.append_nil _)
  rw [expand, if_neg (literal_shallow cs), if_neg Bool.false_ne_true]
  split
  next name plain =>
    rw [plain?_literal plain]
    exact onward (tryName_cases tree path name)
  next wild => exact onward (tryNames_cases single wild path)

/-- A part of a pattern leads on to the folder of that name. -/
theorem expand_folder (single : tree.Single) {path : Path} {piece : String} {front : List String}
    (passes : Passes path (piece :: front)) (opened : tree.isFolder (extend path piece) = true)
    (rest : List (List Wildcard)) :
    expand tree false (piece.toList.map literal :: rest) path = expand tree false rest (extend path piece) := by
  obtain ⟨target, resolved, found⟩ := FileTree.isFolder_iff.mp opened
  obtain ⟨folder, led, inside, onward⟩ := passes.resolve_extend resolved
  have above : tree.isFolder path = true := FileTree.isFolder_iff.mpr ⟨folder, led, inside⟩
  rw [expand, if_neg (literal_shallow piece.toList), if_neg Bool.false_ne_true]
  split
  next name plain =>
    obtain rfl : piece = name := by rw [← plain?_literal plain, String.ofList_toList]
    have leads : tree.leadsTo (extend path piece) = true := by
      unfold FileTree.leadsTo
      rw [FileTree.entry_eq_ok.mpr ⟨target, resolved, found⟩]
    have tried : tryName tree path piece = [extend path piece] := by
      unfold tryName
      dsimp only
      rw [if_pos above, if_pos leads, ite_self]
    rw [tried, List.flatMap_singleton]
  next wild =>
    have isName : IsName piece.toList := by
      refine ⟨?_, ?_, ?_, passes.whole piece List.mem_cons_self⟩
      all_goals
        intro same
        rw [same] at wild
        cases wild
    have named : piece ∈ sortedNames tree path := by
      rw [FileTree.into_name folder isName] at onward
      subst onward
      have listed := FileTree.mem_entries_of_lookup found (by simp)
      exact mem_sortedNames.mpr (mem_names.mpr ⟨folder, led, List.mem_map.mpr ⟨_, listed, rfl⟩⟩)
    rw [tryNames_literal single wild above named, List.flatMap_singleton]

/-- The last part of a pattern for an extension, tried on the names in a folder. -/
theorem expand_extension (tree : FileTree) (folder : Path) (rest : List Wildcard) :
    expand tree false [.sequence :: .char '.' :: rest] folder =
      if tree.isFolder folder then
        ((sortedNames tree folder).filter fun name =>
          covers (.sequence :: .char '.' :: rest) name.toList).map (extend folder)
      else [] := by
  simp [expand, plain?, tryNames, dotNames]

/-- A search comes to the folder that it was asked for. What it does not come to is no folder, and holds no names. -/
theorem expand_steps (single : tree.Single) {path : Path} {front : List String} (passes : Passes path front)
    (rest : List Wildcard) :
    expand tree false (front.map (·.toList.map literal) ++ [.sequence :: .char '.' :: rest]) path =
      expand tree false [.sequence :: .char '.' :: rest] (front.foldl extend path) := by
  induction front generalizing path with
  | nil => rfl
  | cons piece front ih =>
    rw [List.map_cons, List.cons_append, List.foldl_cons]
    -- A piece that names no folder may still be tried, but then nothing is found behind it.
    have further := ih passes.step.1
    by_cases opened : tree.isFolder (extend path piece) = true
    · rw [expand_folder single passes opened, further]
    · have closed : ¬ tree.isFolder (front.foldl extend (extend path piece)) = true :=
        fun inside => opened (passes.step.1.isFolder inside)
      have empty := expand_extension tree (front.foldl extend (extend path piece)) rest
      rw [if_neg closed] at empty
      rcases expand_literal single piece.toList (front.map (·.toList.map literal) ++ [.sequence :: .char '.' :: rest]) path
        with none | onward
      · rw [none, empty]
      · rw [onward, String.ofList_toList, further]

/-- An empty piece after the dots at the start of a relative path leads to no path, so nothing is found there. -/
theorem expand_stalls (single : tree.Single) {front : List String} (stalled : stalls front = true)
    (rest : List (List Wildcard)) :
    expand tree false (front.map (·.toList.map literal) ++ rest) ⟨"."⟩ = [] := by
  induction front with
  | nil => cases stalled
  | cons piece front ih =>
    rw [List.map_cons, List.cons_append]
    by_cases dot : piece = "."
    · have stalled : stalls front = true := by simpa [stalls, dot] using stalled
      rcases expand_literal single piece.toList (front.map (·.toList.map literal) ++ rest) ⟨"."⟩ with none | onward
      · exact none
      · rw [onward, String.ofList_toList, extend_here, dot, ih stalled]
    · obtain rfl : piece = "" := by simpa [stalls, dot] using stalled
      have nowhere : tryName tree ⟨"."⟩ "" = [] := by
        unfold tryName
        rw [extend_here, if_neg (by decide)]
        rfl
      change expand tree false ([] :: _) ⟨"."⟩ = []
      rw [expand, if_neg (by decide), if_neg (by decide)]
      change (tryName tree ⟨"."⟩ "").flatMap _ = []
      rw [nowhere, List.flatMap_nil]

/-! Extensions. -/

/-- The names in a folder that a search comes to, as far as the last part of the pattern matches them. -/
def matching (tree : FileTree) (folder : Path) (part : List Wildcard) : List String :=
  if folder.stalls = false ∧ tree.isFolder folder.reached = true then
    (sortedNames tree folder.reached).filter fun name => covers part name.toList
  else []

theorem expand_matching (single : tree.Single) (folder : Path) (rest : List Wildcard) :
    expand tree false (folder.steps.map (·.toList.map literal) ++ [.sequence :: .char '.' :: rest]) folder.origin =
      (matching tree folder (.sequence :: .char '.' :: rest)).map (extend folder.reached) := by
  unfold matching
  by_cases moving : folder.stalls = false
  · rw [expand_steps single (Path.passes_origin moving), expand_extension]
    change (if tree.isFolder folder.reached then _ else []) = _
    by_cases opened : tree.isFolder folder.reached = true
    · rw [if_pos opened, if_pos ⟨moving, opened⟩]
      rfl
    · rw [if_neg opened, if_neg fun both => opened both.2, List.map_nil]
  · rw [if_neg fun both => moving both.1, List.map_nil]
    simp only [Path.stalls, Bool.and_eq_false_iff, Bool.not_eq_false', not_or, Bool.not_eq_true, Bool.not_eq_false] at moving
    unfold Path.origin Path.steps
    rw [if_neg (by simp [moving.1]), if_neg (by simp [moving.1])]
    exact expand_stalls single moving.2 _

theorem compileParts_escape (front : List String) {last : String} {part : List Wildcard}
    (compiles : compile last = .ok part) :
    compileParts (front.map escape ++ [last]) = .ok (front.map (·.toList.map literal) ++ [part]) := by
  induction front with
  | nil =>
    change compileParts [last] = .ok [part]
    rw [compileParts, compiles]
    rfl
  | cons name front ih =>
    rw [List.map_cons, List.cons_append, compileParts, compile_escape]
    change (compileParts (front.map escape ++ [last])).map _ = _
    rw [ih]
    rfl

/-- What a search for an extension in a folder finds. -/
theorem run_ok_iff (single : tree.Single) {folder : Path} {extension : String} {paths : List Path}
    (whole : '/' ∉ extension.toList) :
    run tree ((Path.mk (escape folder.text)).join ("*." ++ extension)) = .ok paths ↔
      ∃ part, compile ("*." ++ extension) = .ok part ∧
        paths = (matching tree folder part).map (extend folder.reached) := by
  unfold run
  rw [Path.startAndParts_escape folder (by simp) (by simp [whole])]
  cases compiles : compile ("*." ++ extension) with
  | error fault =>
    cases all : compile ((Path.mk (escape folder.text)).join ("*." ++ extension)).text with
    | error => simp
    | ok pattern =>
      obtain ⟨part, compiled⟩ := (compile_join_escape folder.text extension).mp ⟨pattern, all⟩
      cases compiled.symm.trans compiles
  | ok part =>
    obtain ⟨pattern, all⟩ := (compile_join_escape folder.text extension).mpr ⟨part, compiles⟩
    obtain ⟨rest, rfl⟩ := compile_extension compiles
    rw [all]
    dsimp only
    rw [compileParts_escape folder.steps compiles]
    change Except.ok (expand tree false _ folder.origin) = .ok paths ↔ _
    rw [expand_matching single]
    simp [eq_comm]

theorem nodup_matching (single : tree.Single) (folder : Path) (part : List Wildcard) :
    (matching tree folder part).Nodup := by
  unfold matching
  split
  · exact (nodup_sortedNames single _).filter _
  · exact List.nodup_nil

theorem isName_of_mem_matching (proper : tree.Proper) {folder : Path} {part : List Wildcard} {name : String}
    (member : name ∈ matching tree folder part) : IsName name.toList := by
  unfold matching at member
  split at member
  · exact isName_of_mem_names proper (mem_sortedNames.mp (List.mem_filter.mp member).1)
  · cases member

theorem covers_of_mem_matching {folder : Path} {part : List Wildcard} {name : String}
    (member : name ∈ matching tree folder part) : covers part name.toList = true := by
  unfold matching at member
  split at member
  · exact (List.mem_filter.mp member).2
  · cases member

/-- What a search for an extension gives: the files among the paths that it finds, sorted. -/
theorem discover_ok_iff (single : tree.Single) {folder : Path} {extension : String} {files : List Path}
    (whole : '/' ∉ extension.toList) :
    discover tree folder extension = .ok files ↔
      ∃ part, compile ("*." ++ extension) = .ok part ∧
        files = (((matching tree folder part).map (extend folder.reached)).filter tree.isFile).mergeSort Path.le := by
  unfold discover
  dsimp only
  cases runs : run tree ((Path.mk (escape folder.text)).join ("*." ++ extension)) with
  | error fault =>
    refine ⟨nofun, ?_⟩
    rintro ⟨part, compiles, _⟩
    cases runs.symm.trans ((run_ok_iff single whole).mpr ⟨part, compiles, rfl⟩)
  | ok paths =>
    obtain ⟨part, compiles, rfl⟩ := (run_ok_iff single whole).mp runs
    constructor
    · intro found
      exact ⟨part, compiles, (Except.ok.inj found).symm⟩
    · rintro ⟨other, also, rfl⟩
      rw [Except.ok.inj (also.symm.trans compiles)]

/-- Paths to several names in a folder are told apart by their parts. -/
theorem nodup_parts (inside : Path) {names : List String} (distinct : names.Nodup)
    (named : ∀ name ∈ names, IsName name.toList) : ((names.map (extend inside)).map Path.parts).Nodup := by
  have ended (name : String) (member : name ∈ names) : (extend inside name).parts.getLast? = some name := by
    obtain ⟨head, ends⟩ := Path.endsIn_extend inside (named name member)
    rw [ends.parts, String.ofList_toList]
  rw [List.map_map]
  refine distinct.map_on fun name member other also same => ?_
  have last := congrArg List.getLast? same
  rw [Function.comp, Function.comp, ended name member, ended other also] at last
  exact Option.some.inj last

/-- A search finds no file twice, under whatever paths. -/
theorem nodup_discover (proper : tree.Proper) (single : tree.Single) {folder : Path} {extension : String}
    {files : List Path} (whole : '/' ∉ extension.toList) (found : discover tree folder extension = .ok files) :
    (files.map Path.parts).Nodup := by
  obtain ⟨part, _, rfl⟩ := (discover_ok_iff single whole).mp found
  have apart := nodup_parts folder.reached (nodup_matching single folder part) fun _ => isName_of_mem_matching proper
  rw [((List.mergeSort_perm _ Path.le).map Path.parts).nodup_iff]
  exact apart.sublist (List.filter_sublist.map Path.parts)

end Search
end RouteDoc
