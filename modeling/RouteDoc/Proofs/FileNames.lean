import RouteDoc.Files.Search
import RouteDoc.Proofs.TextPieces

/-! Names in paths and in a tree of files. Where a path leads to ends with the name that the path ends with, so
paths that end with different names never meet in one file, and writing to one of them leaves the other as it is. -/

namespace RouteDoc

/-- Whether a text can name an entry of a folder. -/
def IsName (cs : List Char) : Prop := cs ≠ [] ∧ cs ≠ ['.'] ∧ cs ≠ ['.', '.'] ∧ '/' ∉ cs

instance : DecidablePred IsName := fun _ => inferInstanceAs (Decidable (_ ∧ _))

/-- A tree in which every entry has a name that it can have and stands in a folder. -/
structure FileTree.Proper (tree : FileTree) : Prop where
  names : ∀ entry ∈ tree.entries, ∀ name ∈ entry.1, IsName name.toList
  parents : ∀ entry ∈ tree.entries, tree.lookup entry.1.dropLast = some .folder
  workingFolder : tree.lookup tree.workingFolder = some .folder

/-- A path that ends with a name, after a slash if after anything. -/
structure Path.EndsIn (path : Path) (head name : List Char) : Prop where
  text : path.text.toList = head ++ name
  slash : ∀ c ∈ head.getLast?, c = '/'
  isName : IsName name

/-! Pieces of paths. -/

namespace Path
variable {path : Path} {head name : List Char}

theorem slash_notMem_pieces {piece : String} (member : piece ∈ path.pieces) : '/' ∉ piece.toList := by
  obtain ⟨cs, found, rfl⟩ := List.mem_map.mp member
  rw [String.toList_ofList]
  exact Text.notMem_of_mem_pieces found

theorem pieces_append (text : path.text.toList = head ++ name) (slash : ∀ c ∈ head.getLast?, c = '/')
    (whole : '/' ∉ name) : ∃ front, path.pieces = front ++ [String.ofList name] := by
  unfold Path.pieces
  rw [text]
  rcases List.eq_nil_or_concat head with rfl | ⟨before, last, rfl⟩
  · exact ⟨[], by simp [Text.pieces_of_notMem whole]⟩
  · obtain rfl : last = '/' := slash last (by simp)
    refine ⟨(Text.pieces '/' before).map String.ofList, ?_⟩
    rw [List.concat_eq_append, List.append_assoc, List.singleton_append, Text.pieces_append_mark,
      Text.pieces_of_notMem whole, List.map_append, List.map_singleton]

theorem EndsIn.pieces (ends : path.EndsIn head name) : ∃ front, path.pieces = front ++ [String.ofList name] :=
  pieces_append ends.text ends.slash ends.isName.2.2.2

theorem dropTrailing_name (isName : IsName name) (rest : List Char) :
    dropTrailing (name.reverse ++ rest) = name.reverse ++ rest := by
  obtain ⟨filled, notHere, _, whole⟩ := isName
  rw [← List.mem_reverse] at whole
  cases same : name.reverse with
  | nil => exact absurd (List.reverse_eq_nil_iff.mp same) filled
  | cons last more =>
    rw [same] at whole
    obtain ⟨solid, whole⟩ := List.ne_and_not_mem_of_not_mem_cons whole
    cases more with
    | nil =>
      have dotless : last ≠ '.' := by
        rintro rfl
        exact notHere (List.reverse_eq_iff.mp same)
      simp [dropTrailing, solid.symm, dotless]
    | cons c more =>
      have inside := (List.ne_and_not_mem_of_not_mem_cons whole).1
      simp [dropTrailing, solid.symm, inside.symm]

theorem EndsIn.headAndName? (ends : path.EndsIn head name) : path.headAndName? = some (head, name) := by
  have plain : ∀ c ∈ name.reverse, (decide (c ≠ '/')) = true := by
    intro c member
    have whole := ends.isName.2.2.2
    simp only [ne_eq, decide_not, Bool.not_eq_true', decide_eq_false_iff_not]
    rintro rfl
    exact whole (List.mem_reverse.mp member)
  have slashed : head.reverse.takeWhile (· ≠ '/') = [] ∧ head.reverse.dropWhile (· ≠ '/') = head.reverse := by
    rcases List.eq_nil_or_concat head with rfl | ⟨before, last, rfl⟩
    · exact ⟨rfl, rfl⟩
    · obtain rfl : last = '/' := ends.slash last (by simp)
      simp
  have reversed : path.text.toList.reverse = name.reverse ++ head.reverse := by
    rw [ends.text, List.reverse_append]
  simp only [Path.headAndName?, reversed, dropTrailing_name ends.isName, List.takeWhile_append_of_pos plain,
    List.dropWhile_append_of_pos plain, slashed]
  simp [ends.isName.1, ends.isName.2.1, ends.isName.2.2.1]

/-- A path has one name at its end. -/
theorem EndsIn.unique {before other : List Char} (ends : path.EndsIn head name) (same : path.EndsIn before other) :
    head = before ∧ name = other :=
  Prod.mk.inj (Option.some.inj (ends.headAndName?.symm.trans same.headAndName?))

/-- Whatever name is added to a path, the same stands before it. -/
theorem head_join (base : Path) : ∃ head, ∀ name : String, IsName name.toList →
    (base.join name).EndsIn head name.toList := by
  have solid {name : String} (isName : IsName name.toList) : name.toList.head? ≠ some '/' :=
    fun starts => isName.2.2.2 (List.mem_of_head? starts)
  unfold join
  by_cases blank : base.text = ""
  · refine ⟨[], fun name isName => ?_⟩
    rw [if_neg (solid isName), if_pos blank]
    exact ⟨by simp, nofun, isName⟩
  by_cases slash : base.text.toList.getLast? = some '/'
  · refine ⟨base.text.toList, fun name isName => ?_⟩
    rw [if_neg (solid isName), if_neg blank, if_pos slash]
    exact ⟨by simp, fun c last => (Option.some.inj (slash.symm.trans last)).symm, isName⟩
  · refine ⟨base.text.toList ++ ['/'], fun name isName => ?_⟩
    rw [if_neg (solid isName), if_neg blank, if_neg slash]
    exact ⟨by simp, by simp, isName⟩

theorem endsIn_join (base : Path) {name : String} (isName : IsName name.toList) :
    ∃ head, (base.join name).EndsIn head name.toList :=
  (head_join base).imp fun _ all => all name isName

theorem head_extend (path : Path) : ∃ head, ∀ name : String, IsName name.toList →
    (Search.extend path name).EndsIn head name.toList := by
  unfold Search.extend
  split
  · exact ⟨[], fun name isName => ⟨by simp, nofun, isName⟩⟩
  · exact head_join path

theorem endsIn_extend (path : Path) {name : String} (isName : IsName name.toList) :
    ∃ head, (Search.extend path name).EndsIn head name.toList :=
  (head_extend path).imp fun _ all => all name isName

end Path

/-! Where paths lead. -/

namespace FileTree
variable {tree after : FileTree}

/-- Where a piece of a path leads from a folder. -/
def into (folder : Location) (piece : String) : Location :=
  if piece = "" ∨ piece = "." then folder
  else if piece = ".." then folder.dropLast
  else folder ++ [piece]

theorem follow_cons {start location : Location} {piece : String} {rest : List String} :
    tree.follow start (piece :: rest) = .ok location ↔ tree.lookup start = some .folder ∧
      piece.utf8ByteSize ≤ longestName ∧ tree.follow (into start piece) rest = .ok location := by
  rw [follow, into]
  cases tree.lookup start with
  | none => simp
  | some entry =>
    cases entry with
    | file => simp
    | folder =>
      by_cases here : piece = "" ∨ piece = "."
      · have short : piece.utf8ByteSize ≤ longestName := by rcases here with rfl | rfl <;> decide
        simp [here, short]
      by_cases above : piece = ".."
      · have short : piece.utf8ByteSize ≤ longestName := by rw [above]; decide
        simp [above, show (".." : String).utf8ByteSize ≤ longestName from by decide]
      by_cases long : longestName < piece.utf8ByteSize
      · simp [here, above, long, Nat.not_le.mpr long]
      · simp [here, above, long, Nat.not_lt.mp long]

theorem into_name (folder : Location) {name : String} (isName : IsName name.toList) :
    into folder name = folder ++ [name] := by
  have here : ¬(name = "" ∨ name = ".") := by
    rintro (rfl | rfl)
    · exact isName.1 rfl
    · exact isName.2.1 rfl
  have above : name ≠ ".." := by
    rintro rfl
    exact isName.2.2.1 rfl
  rw [into, if_neg here, if_neg above]

theorem follow_last {start location : Location} {front : List String} {piece : String}
    (followed : tree.follow start (front ++ [piece]) = .ok location) :
    ∃ folder, tree.lookup folder = some .folder ∧ location = into folder piece := by
  induction front generalizing start with
  | nil =>
    obtain ⟨folder, _, found⟩ := follow_cons.mp followed
    exact ⟨start, folder, (Except.ok.inj found).symm⟩
  | cons first front ih => exact ih (follow_cons.mp followed).2.2

theorem resolve_eq_ok {path : Path} {location : Location} :
    tree.resolve path = .ok location ↔ '\x00' ∉ path.text.toList ∧ path.text ≠ "" ∧
      path.text.utf8ByteSize ≤ longestPath ∧
      tree.follow (if path.isAbsolute then [] else tree.workingFolder) path.pieces = .ok location := by
  unfold resolve
  by_cases ended : '\x00' ∈ path.text.toList
  · simp [ended]
  by_cases blank : path.text = ""
  · simp [blank]
  by_cases long : longestPath < path.text.utf8ByteSize
  · simp [ended, blank, long, Nat.not_le.mpr long]
  · simp [ended, blank, long, Nat.not_lt.mp long]

theorem entry_eq_ok {path : Path} {entry : Entry} :
    tree.entry path = .ok entry ↔ ∃ location, tree.resolve path = .ok location ∧ tree.lookup location = some entry := by
  unfold FileTree.entry
  cases tree.resolve path with
  | error => simp
  | ok location =>
    cases same : tree.lookup location <;> simp [same]

theorem isFolder_iff {path : Path} : tree.isFolder path = true ↔
    ∃ folder, tree.resolve path = .ok folder ∧ tree.lookup folder = some .folder := by
  rw [← entry_eq_ok]
  unfold FileTree.isFolder
  split
  next opened => simp [opened]
  next other => simpa using other

theorem isFile_iff {path : Path} : tree.isFile path = true ↔
    ∃ location content time, tree.resolve path = .ok location ∧ tree.lookup location = some (.file content time) := by
  constructor
  · intro isFile
    unfold FileTree.isFile at isFile
    split at isFile
    next content time found =>
      obtain ⟨location, resolved, held⟩ := entry_eq_ok.mp found
      exact ⟨location, content, time, resolved, held⟩
    next => cases isFile
  · rintro ⟨location, content, time, resolved, held⟩
    unfold FileTree.isFile
    rw [entry_eq_ok.mpr ⟨location, resolved, held⟩]

/-- Where a path leads to has the name that the path ends with. -/
theorem resolve_endsIn {path : Path} {head name : List Char} {location : Location} (ends : path.EndsIn head name)
    (resolved : tree.resolve path = .ok location) : ∃ folder, location = folder ++ [String.ofList name] := by
  obtain ⟨front, pieces⟩ := ends.pieces
  have followed := (resolve_eq_ok.mp resolved).2.2.2
  rw [pieces] at followed
  obtain ⟨folder, _, rfl⟩ := follow_last followed
  exact ⟨folder, into_name folder (by rw [String.toList_ofList]; exact ends.isName)⟩

/-! Writing. -/

/-- What a write does: it puts a file where the path leads to, which is no folder, and nothing else. -/
theorem write_eq_ok {path : Path} {text : String} (written : tree.write path text = .ok after) :
    ∃ location, tree.resolve path = .ok location ∧ tree.lookup location ≠ some .folder ∧
      after = { tree.put location (.file text.toUTF8 tree.clock) with clock := tree.clock + 1 } := by
  unfold write at written
  split at written
  · cases written
  next location resolved =>
    split at written
    · cases written
    next found => exact ⟨location, resolved, by simp [found], (Except.ok.inj written).symm⟩
    next found => exact ⟨location, resolved, by simp [found], (Except.ok.inj written).symm⟩

/-- A path leads where it led before as long as no folder is lost. -/
theorem follow_kept (kept : ∀ location, tree.lookup location = some .folder → after.lookup location = some .folder)
    {start location : Location} {pieces : List String} (followed : tree.follow start pieces = .ok location) :
    after.follow start pieces = .ok location := by
  induction pieces generalizing start with
  | nil => exact followed
  | cons piece pieces ih =>
    obtain ⟨folder, short, followed⟩ := follow_cons.mp followed
    exact follow_cons.mpr ⟨kept start folder, short, ih followed⟩

/-- What a path leads to is still there after a write to a path that ends with another name. -/
theorem entry_write {path output : Path} {text : String} {head name folder other : List Char}
    (written : tree.write output text = .ok after) (ends : path.EndsIn head name) (outer : output.EndsIn folder other)
    (differs : name ≠ other) {entry : Entry} (found : tree.entry path = .ok entry) :
    after.entry path = .ok entry := by
  obtain ⟨target, targeted, free, rfl⟩ := write_eq_ok written
  obtain ⟨location, resolved, found⟩ := entry_eq_ok.mp found
  have others (other : Location) (apart : other ≠ target) :
      (tree.put target (.file text.toUTF8 tree.clock)).lookup other = tree.lookup other := by
    rw [lookup_put, if_neg (by simp [apart])]
  have apart : location ≠ target := by
    obtain ⟨above, rfl⟩ := resolve_endsIn ends resolved
    obtain ⟨below, rfl⟩ := resolve_endsIn outer targeted
    intro same
    have names := List.append_inj_right' same rfl
    exact differs (String.ofList_injective (List.singleton_inj.mp names))
  have kept (other : Location) (folder : tree.lookup other = some .folder) :
      (tree.put target (.file text.toUTF8 tree.clock)).lookup other = some .folder := by
    rw [others other (by rintro rfl; exact free folder), folder]
  obtain ⟨unended, filled, short, followed⟩ := resolve_eq_ok.mp resolved
  refine entry_eq_ok.mpr ⟨location, resolve_eq_ok.mpr ⟨unended, filled, short, follow_kept ?_ followed⟩, ?_⟩
  · exact kept
  · exact (others location apart).trans found

/-! Proper trees. -/

theorem names_into {folder : Location} {piece : String} (names : ∀ name ∈ folder, IsName name.toList)
    (whole : '/' ∉ piece.toList) : ∀ name ∈ into folder piece, IsName name.toList := by
  intro name member
  unfold into at member
  split at member
  · exact names name member
  next here =>
    split at member
    · exact names name (List.dropLast_subset _ member)
    next above =>
      rcases List.mem_append.mp member with member | member
      · exact names name member
      · obtain rfl := List.mem_singleton.mp member
        refine ⟨?_, ?_, ?_, whole⟩
        · exact fun same => here (.inl (String.toList_inj.mp same))
        · exact fun same => here (.inr (String.toList_inj.mp same))
        · exact fun same => above (String.toList_inj.mp same)

theorem names_follow {pieces : List String} (whole : ∀ piece ∈ pieces, '/' ∉ piece.toList)
    {start location : Location} (names : ∀ name ∈ start, IsName name.toList)
    (followed : tree.follow start pieces = .ok location) : ∀ name ∈ location, IsName name.toList := by
  induction pieces generalizing start with
  | nil =>
    obtain rfl := Except.ok.inj followed
    exact names
  | cons piece pieces ih =>
    obtain ⟨first, whole⟩ := List.forall_mem_cons.mp whole
    exact ih whole (names_into names first) (follow_cons.mp followed).2.2

theorem mem_entries_of_lookup {location : Location} {entry : Entry} (found : tree.lookup location = some entry)
    (rooted : location ≠ []) : (location, entry) ∈ tree.entries := by
  rw [lookup, if_neg rooted, Keyed.get?, Option.map_eq_some_iff] at found
  obtain ⟨⟨place, _⟩, listed, rfl⟩ := found
  obtain rfl : place = location := by simpa using List.find?_some listed
  exact List.mem_of_find?_eq_some listed

namespace Proper

theorem names_lookup (proper : tree.Proper) {location : Location} {entry : Entry}
    (found : tree.lookup location = some entry) : ∀ name ∈ location, IsName name.toList := by
  by_cases rooted : location = []
  · rw [rooted]
    exact nofun
  · exact proper.names _ (mem_entries_of_lookup found rooted)

theorem parent (proper : tree.Proper) {location : Location} {entry : Entry}
    (found : tree.lookup location = some entry) : tree.lookup location.dropLast = some .folder := by
  by_cases rooted : location = []
  · rw [rooted]
    rfl
  · exact proper.parents _ (mem_entries_of_lookup found rooted)

theorem parent_follow (proper : tree.Proper) {start location : Location} {pieces : List String}
    (opened : tree.lookup start.dropLast = some .folder) (followed : tree.follow start pieces = .ok location) :
    tree.lookup location.dropLast = some .folder := by
  induction pieces generalizing start with
  | nil =>
    obtain rfl := Except.ok.inj followed
    exact opened
  | cons piece pieces ih =>
    obtain ⟨folder, _, followed⟩ := follow_cons.mp followed
    refine ih ?_ followed
    unfold into
    split
    · exact opened
    split
    · exact proper.parent opened
    · rwa [List.dropLast_concat]

/-- Paths are followed from folders. -/
theorem start (proper : tree.Proper) (path : Path) :
    tree.lookup (if path.isAbsolute then [] else tree.workingFolder) = some .folder := by
  split
  · rfl
  · exact proper.workingFolder

/-- A path in a proper tree leads along names, to a place in a folder. -/
theorem resolve {path : Path} {location : Location} (proper : tree.Proper)
    (resolved : tree.resolve path = .ok location) :
    (∀ name ∈ location, IsName name.toList) ∧ tree.lookup location.dropLast = some .folder := by
  have followed := (resolve_eq_ok.mp resolved).2.2.2
  exact ⟨names_follow (fun _ => Path.slash_notMem_pieces) (proper.names_lookup (proper.start path)) followed,
    proper.parent_follow (proper.parent (proper.start path)) followed⟩

/-- The folder above a folder cannot be written. -/
theorem not_write_above (proper : tree.Proper) {path : Path} {head : List Char} {text : String}
    (above : path.text.toList = head ++ ['.', '.']) (slash : ∀ c ∈ head.getLast?, c = '/') :
    tree.write path text ≠ .ok after := by
  intro written
  obtain ⟨location, resolved, free, _⟩ := write_eq_ok written
  obtain ⟨front, pieces⟩ := Path.pieces_append above slash (by decide)
  have followed := (resolve_eq_ok.mp resolved).2.2.2
  rw [pieces] at followed
  obtain ⟨folder, found, rfl⟩ := follow_last followed
  exact free (proper.parent found)

/-- A write leaves a proper tree. -/
theorem write {path : Path} {text : String} (proper : tree.Proper)
    (written : tree.write path text = .ok after) : after.Proper := by
  obtain ⟨location, resolved, free, rfl⟩ := write_eq_ok written
  obtain ⟨names, opened⟩ := proper.resolve resolved
  have kept (other : Location) (folder : tree.lookup other = some .folder) :
      (tree.put location (.file text.toUTF8 tree.clock)).lookup other = some .folder := by
    rw [lookup_put, if_neg (by rintro ⟨_, rfl⟩; exact free folder), folder]
  refine ⟨?_, ?_, kept _ proper.workingFolder⟩
  · intro entry member
    rcases List.mem_cons.mp member with rfl | member
    · exact names
    · exact proper.names entry (List.mem_filter.mp member).1
  · intro entry member
    rcases List.mem_cons.mp member with rfl | member
    · exact kept _ opened
    · exact kept _ (proper.parents entry (List.mem_filter.mp member).1)

end Proper
end FileTree

end RouteDoc
