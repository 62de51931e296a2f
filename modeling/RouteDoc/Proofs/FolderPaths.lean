import RouteDoc.Proofs.PathParts

/-! Names added to folders. A path to a folder may end with a slash or not; a name that is added stands behind the same
pieces. A search builds its own path to a folder piece by piece, from the working folder or the root, without dots at
the start and without slashes that repeat. It leads to the same place, and is no longer. -/

namespace RouteDoc
namespace Path
variable {path : Path}

/-- The pieces that stand before a name that is added to a path. -/
def folders (path : Path) : List String :=
  if path.text = "" ∨ path.text.toList.getLast? = some '/' then path.pieces.dropLast else path.pieces

theorem pieces_eq_folders (path : Path) : path.pieces = path.folders ∨ path.pieces = path.folders ++ [""] := by
  unfold folders
  split
  next ends =>
    right
    rcases ends with blank | slash
    · simp [pieces, blank, Text.pieces]
    · obtain ⟨before, same⟩ := List.getLast?_eq_some_iff.mp slash
      simp [pieces, same, Text.pieces_append_mark, Text.pieces]
  next => exact .inl rfl

/-- What is added to a path does not change the first piece of it. -/
theorem head?_folders (filled : path.text ≠ "") (added : List String) :
    (path.folders ++ added).head? = path.pieces.head? := by
  have some : path.folders ≠ [] := by
    unfold folders
    split
    next ends =>
      obtain ⟨before, same⟩ := List.getLast?_eq_some_iff.mp (ends.resolve_left filled)
      simp [pieces, same, Text.pieces_append_mark, Text.pieces, Text.pieces_ne_nil]
    next => simp [pieces, Text.pieces_ne_nil]
  obtain ⟨first, others, cut⟩ := List.exists_cons_of_ne_nil some
  rcases path.pieces_eq_folders with same | same
  · rw [same, cut]
    rfl
  · rw [same, cut]
    rfl

theorem pieces_join (path : Path) {name : String} (whole : '/' ∉ name.toList) :
    (path.join name).pieces = path.folders ++ [name] := by
  have single : Text.pieces '/' name.toList = [name.toList] := Text.pieces_of_notMem whole
  unfold join folders
  rw [if_neg fun starts => whole (List.mem_of_head? starts)]
  by_cases blank : path.text = ""
  · rw [if_pos blank, if_pos (.inl blank)]
    simp [pieces, blank, single, Text.pieces]
  rw [if_neg blank]
  by_cases slash : path.text.toList.getLast? = some '/'
  · rw [if_pos slash, if_pos (.inr slash)]
    obtain ⟨before, same⟩ := List.getLast?_eq_some_iff.mp slash
    simp [pieces, same, Text.pieces_append_mark, single, Text.pieces]
  · rw [if_neg slash, if_neg (by simp [blank, slash])]
    simp [pieces, Text.pieces_append_mark, single]

theorem isAbsolute_join (path : Path) {name : String} (whole : '/' ∉ name.toList) :
    (path.join name).isAbsolute = path.isAbsolute := by
  have solid : name.toList.head? ≠ some '/' := fun starts => whole (List.mem_of_head? starts)
  unfold join
  rw [if_neg solid]
  split
  next blank => simp [isAbsolute, blank, solid]
  next filled =>
    obtain ⟨c, cs, same⟩ := List.exists_cons_of_ne_nil (by simpa using filled : path.text.toList ≠ [])
    split <;> simp [isAbsolute, same]

theorem text_join (filled : path.text ≠ "") {name : String} (whole : '/' ∉ name.toList) :
    ∃ rest, (path.join name).text = path.text ++ rest := by
  unfold join
  rw [if_neg fun starts => whole (List.mem_of_head? starts), if_neg filled]
  split
  · exact ⟨name, rfl⟩
  · exact ⟨"/" ++ name, by simp [String.append_assoc]⟩

/-- A path is as long as its pieces, each with a slash. -/
theorem slash_text (path : Path) : '/' :: path.text.toList = path.pieces.flatMap ('/' :: ·.toList) := by
  rw [Text.mark_cons_eq_flatMap, pieces, List.flatMap_map]
  simp

end Path

/-! Where added names lead. -/

namespace FileTree
open RouteDoc.Path
variable {tree : FileTree} {start location : Location} {front rest : List String} {piece : String}

theorem follow_append : tree.follow start (front ++ rest) = .ok location ↔
    ∃ middle, tree.follow start front = .ok middle ∧ tree.follow middle rest = .ok location := by
  induction front generalizing start with
  | nil => simp [follow]
  | cons first front ih =>
    rw [List.cons_append, follow_cons, ih]
    constructor
    · rintro ⟨opened, short, middle, before, after⟩
      exact ⟨middle, follow_cons.mpr ⟨opened, short, before⟩, after⟩
    · rintro ⟨middle, before, after⟩
      obtain ⟨opened, short, before⟩ := follow_cons.mp before
      exact ⟨opened, short, middle, before, after⟩

theorem follow_concat : tree.follow start (front ++ [piece]) = .ok location ↔
    ∃ folder, tree.follow start front = .ok folder ∧ tree.lookup folder = some .folder ∧
      piece.utf8ByteSize ≤ longestName ∧ into folder piece = location := by
  rw [follow_append]
  constructor
  · rintro ⟨folder, before, after⟩
    obtain ⟨opened, short, after⟩ := follow_cons.mp after
    exact ⟨folder, before, opened, short, Except.ok.inj after⟩
  · rintro ⟨folder, before, opened, short, rfl⟩
    exact ⟨folder, before, follow_cons.mpr ⟨opened, short, rfl⟩⟩

/-- A piece that leads nowhere asks for a folder, and so does any piece after it. -/
theorem follow_still {still : String} (stays : leadsOn still = false) :
    tree.follow start (front ++ [still] ++ [piece]) = .ok location ↔
      tree.follow start (front ++ [piece]) = .ok location := by
  rw [follow_concat, follow_concat]
  constructor
  · rintro ⟨folder, before, opened, short, same⟩
    obtain ⟨inside, earlier, _, _, onward⟩ := follow_concat.mp before
    rw [into_of_not_leadsOn stays] at onward
    subst onward
    exact ⟨inside, earlier, opened, short, same⟩
  · rintro ⟨folder, before, opened, short, same⟩
    have narrow : still.utf8ByteSize ≤ longestName := by
      simp only [leadsOn, Bool.and_eq_false_iff, bne_eq_false_iff_eq] at stays
      rcases stays with rfl | rfl <;> decide
    exact ⟨folder, follow_concat.mpr ⟨folder, before, opened, narrow, into_of_not_leadsOn stays folder⟩, opened, short,
      same⟩

theorem follow_join (path : Path) (whole : '/' ∉ piece.toList) :
    tree.follow start (path.join piece).pieces = .ok location ↔
      tree.follow start (path.pieces ++ [piece]) = .ok location := by
  rw [path.pieces_join whole]
  rcases path.pieces_eq_folders with same | same
  · rw [same]
  · rw [same, follow_still (by decide)]

end FileTree

/-! The paths that a search builds. -/

namespace Search
open RouteDoc.Path
variable {tree : FileTree} {path : Path} {piece : String} {front : List String}

/-- Whether pieces lead into an empty one from the working folder, over dots at most. -/
def stalls (front : List String) : Bool := (front.dropWhile (· == ".")).head? == some ""

theorem stalls_concat (front : List String) {name : String} (filled : name ≠ "") :
    stalls (front ++ [name]) = stalls front := by
  induction front with
  | nil => by_cases dot : name = "." <;> simp [stalls, dot, filled]
  | cons piece front ih =>
    by_cases dot : piece = "."
    · simpa [stalls, dot] using ih
    · simp [stalls, dot]

/-- A path that is not empty and does not start with a dot as a piece of its own. -/
structure Anchored (path : Path) : Prop where
  filled : path.text ≠ ""
  dotless : path.pieces.head? ≠ some "."

/-- A path that a search comes to, and the pieces that it goes on with. -/
structure Passes (path : Path) (front : List String) : Prop where
  tidy : path = ⟨"."⟩ ∨ Anchored path
  steady : path = ⟨"."⟩ → stalls front = false
  whole : ∀ piece ∈ front, '/' ∉ piece.toList

theorem extend_here (name : String) : extend ⟨"."⟩ name = ⟨name⟩ := by
  rw [extend, if_pos (by decide +kernel)]

theorem Anchored.parts_ne (anchored : Anchored path) : path.parts ≠ ["."] := by
  obtain ⟨c, cs, text⟩ := List.exists_cons_of_ne_nil (by simpa using anchored.filled : path.text.toList ≠ [])
  unfold Path.parts
  dsimp only
  split
  · exact fun same => absurd (List.cons.inj same).1 (by decide)
  next relative =>
    have solid : c ≠ '/' := by
      rintro rfl
      exact relative (by simp [Path.isAbsolute, text])
    obtain ⟨first, others, cut⟩ := List.exists_cons_of_ne_nil (@Text.pieces_ne_nil '/' cs)
    have pieces : path.pieces = String.ofList (c :: first) :: others.map String.ofList := by
      rw [Path.pieces, text, Text.pieces_cons solid cut, List.map_cons]
    have dotless : String.ofList (c :: first) ≠ "." := by simpa [pieces] using anchored.dotless
    rw [pieces, List.filter_cons_of_pos (by simp)]
    split
    next same => exact absurd (List.cons.inj same).1 dotless
    next =>
      rw [List.filter_cons_of_pos (by simpa using dotless)]
      exact fun same => dotless (List.cons.inj same).1

theorem Anchored.extend (anchored : Anchored path) (name : String) : extend path name = path.join name :=
  if_neg anchored.parts_ne

theorem Anchored.join (anchored : Anchored path) (whole : '/' ∉ piece.toList) : Anchored (path.join piece) := by
  obtain ⟨rest, same⟩ := text_join anchored.filled whole
  refine ⟨fun blank => anchored.filled (String.append_eq_empty_iff.mp (same.symm.trans blank)).1, ?_⟩
  rw [pieces_join path whole, head?_folders anchored.filled]
  exact anchored.dotless

/-- Every step of a search comes to such a path again, and leads where the piece leads. -/
theorem Passes.step (passes : Passes path (piece :: front)) :
    Passes (extend path piece) front ∧ (extend path piece).isAbsolute = path.isAbsolute ∧
      ∀ (tree : FileTree) start location, tree.follow start (extend path piece).pieces = .ok location ↔
        tree.follow start (path.pieces ++ [piece]) = .ok location := by
  obtain ⟨whole, others⟩ := List.forall_mem_cons.mp passes.whole
  rcases passes.tidy with rfl | anchored
  · have single : Path.pieces ⟨piece⟩ = [piece] := by
      rw [Path.pieces, Text.pieces_of_notMem whole, List.map_singleton, String.ofList_toList]
    rw [extend_here]
    refine ⟨⟨?_, ?_, others⟩, ?_, ?_⟩
    · by_cases dot : piece = "."
      · exact .inl (by rw [dot])
      · refine .inr ⟨?_, by simpa [single] using dot⟩
        rintro rfl
        exact absurd (passes.steady rfl) (by simp [stalls])
    · intro here
      obtain rfl : piece = "." := congrArg Path.text here
      exact passes.steady rfl
    · have solid : piece.toList.head? ≠ some '/' := fun starts => whole (List.mem_of_head? starts)
      simp [Path.isAbsolute, solid]
    · intro tree start location
      rw [single, show Path.pieces ⟨"."⟩ = [] ++ ["."] by decide, FileTree.follow_still (by decide), List.nil_append]
  · rw [anchored.extend]
    have further := anchored.join whole
    refine ⟨⟨.inr further, ?_, others⟩, isAbsolute_join path whole, fun _ _ _ => FileTree.follow_join path whole⟩
    intro here
    rw [here] at further
    exact absurd rfl further.dotless

theorem Passes.concat {name : String} (passes : Passes path front) (isName : IsName name.toList) :
    Passes path (front ++ [name]) := by
  have filled : name ≠ "" := fun blank => isName.1 (by rw [blank]; rfl)
  refine ⟨passes.tidy, fun here => (stalls_concat front filled).trans (passes.steady here), ?_⟩
  intro piece member
  rcases List.mem_append.mp member with member | member
  · exact passes.whole piece member
  · obtain rfl := List.mem_singleton.mp member
    exact isName.2.2.2

theorem Passes.steps {rest : List String} (passes : Passes path (front ++ rest)) :
    Passes (front.foldl Search.extend path) rest ∧
      (front.foldl Search.extend path).isAbsolute = path.isAbsolute ∧
      ∀ (tree : FileTree) start location, tree.follow start (front.foldl Search.extend path).pieces = .ok location ↔
        tree.follow start (path.pieces ++ front) = .ok location := by
  induction front generalizing path with
  | nil => exact ⟨passes, rfl, fun _ _ _ => by rw [List.append_nil, List.foldl_nil]⟩
  | cons piece front ih =>
    obtain ⟨onward, rooted, leads⟩ := passes.step
    obtain ⟨last, same, led⟩ := ih onward
    refine ⟨last, same.trans rooted, fun tree start location => (led tree start location).trans ?_⟩
    rw [List.append_cons, FileTree.follow_append, FileTree.follow_append]
    simp only [leads]

/-- What is behind the next piece is in the folder that a search has come to. -/
theorem Passes.resolve_extend (passes : Passes path (piece :: front)) {target : Location}
    (resolved : tree.resolve (extend path piece) = .ok target) :
    ∃ folder, tree.resolve path = .ok folder ∧ tree.lookup folder = some .folder ∧
      FileTree.into folder piece = target := by
  obtain ⟨_, rooted, leads⟩ := passes.step
  obtain ⟨unended, _, short, followed⟩ := FileTree.resolve_eq_ok.mp resolved
  rw [rooted, leads] at followed
  obtain ⟨folder, before, opened, _, onward⟩ := FileTree.follow_concat.mp followed
  refine ⟨folder, FileTree.resolve_eq_ok.mpr ?_, opened, onward⟩
  rcases passes.tidy with rfl | anchored
  · exact ⟨by decide, by decide, by decide, before⟩
  · obtain ⟨rest, same⟩ := text_join anchored.filled (passes.whole piece List.mem_cons_self)
    rw [anchored.extend, same] at unended short
    rw [String.toList_append, List.mem_append, not_or] at unended
    rw [String.utf8ByteSize_append] at short
    exact ⟨unended.1, anchored.filled, by omega, before⟩

/-- A search comes to a folder through folders. -/
theorem Passes.isFolder (passes : Passes path front)
    (opened : tree.isFolder (front.foldl Search.extend path) = true) : tree.isFolder path = true := by
  induction front generalizing path with
  | nil => exact opened
  | cons piece front ih =>
    obtain ⟨target, resolved, _⟩ := FileTree.isFolder_iff.mp (ih passes.step.1 opened)
    obtain ⟨folder, led, inside, _⟩ := passes.resolve_extend resolved
    exact FileTree.isFolder_iff.mpr ⟨folder, led, inside⟩

/-- A path that is built takes no more room than its pieces. -/
theorem slash_extend (path : Path) (name : String) :
    ('/' :: (extend path name).text.toList).Sublist ('/' :: path.text.toList ++ '/' :: name.toList) := by
  have alone : ('/' :: name.toList).Sublist ('/' :: path.text.toList ++ '/' :: name.toList) :=
    List.sublist_append_right _ _
  unfold extend Path.join
  split
  · exact alone
  split
  · exact alone
  split
  · exact alone
  split
  · simp
  · simp

theorem slash_extends (path : Path) (front : List String) :
    ('/' :: (front.foldl Search.extend path).text.toList).Sublist
      ('/' :: path.text.toList ++ front.flatMap ('/' :: ·.toList)) := by
  induction front generalizing path with
  | nil => simp
  | cons piece front ih =>
    rw [List.flatMap_cons, ← List.append_assoc]
    exact (ih _).trans ((slash_extend path piece).append_right _)

end Search

/-! The folder that a search comes to. -/

namespace Path
variable {folder : Path} {name : String}

/-- Where a search in a folder starts. -/
def origin (folder : Path) : Path := if folder.isAbsolute then ⟨"/"⟩ else ⟨"."⟩

/-- The pieces that a search in a folder follows. -/
def steps (folder : Path) : List String :=
  if folder.isAbsolute then folder.folders.dropWhile (· == "") else folder.folders

/-- A folder as a search comes to it. -/
def reached (folder : Path) : Path := folder.steps.foldl Search.extend folder.origin

/-- Whether a search gets lost on the way to a folder, as on the way to `.//`. -/
def stalls (folder : Path) : Bool := !folder.isAbsolute && Search.stalls folder.folders

theorem slash_notMem_folders {piece : String} (member : piece ∈ folder.folders) : '/' ∉ piece.toList := by
  have listed : piece ∈ folder.pieces := by
    rcases folder.pieces_eq_folders with same | same
    · rwa [same]
    · rw [same]
      exact List.mem_append_left _ member
  exact slash_notMem_pieces listed

theorem slash_notMem_concat (folder : Path) (isName : IsName name.toList) :
    ∀ piece ∈ folder.folders ++ [name], '/' ∉ piece.toList := by
  intro piece member
  rcases List.mem_append.mp member with member | member
  · exact slash_notMem_folders member
  · obtain rfl := List.mem_singleton.mp member
    exact isName.2.2.2

theorem folders_of_isAbsolute (absolute : folder.isAbsolute = true) : ∃ others, folder.folders = "" :: others := by
  have starts : folder.text.toList.head? = some '/' := by simpa [isAbsolute] using absolute
  obtain ⟨cs, text⟩ := List.head?_eq_some_iff.mp starts
  have filled : folder.text ≠ "" := by
    intro blank
    simp [blank] at text
  have first := folder.head?_folders filled []
  rw [List.append_nil, pieces, text, Text.pieces, if_pos rfl] at first
  exact (List.head?_eq_some_iff.mp first).imp fun _ same => same

theorem passes_origin (moving : folder.stalls = false) : Search.Passes folder.origin folder.steps := by
  unfold origin steps
  split
  next absolute =>
    refine ⟨.inr ⟨by decide, by decide⟩, nofun, ?_⟩
    exact fun piece member => slash_notMem_folders ((List.dropWhile_sublist _).subset member)
  next relative => exact ⟨.inl rfl, fun _ => by simpa [stalls, relative] using moving, fun _ => slash_notMem_folders⟩

theorem passes_name (moving : folder.stalls = false) (isName : IsName name.toList) :
    Search.Passes folder.origin (folder.steps ++ [name]) :=
  (passes_origin moving).concat isName

theorem filter_steps (folder : Path) :
    (folder.origin.pieces ++ folder.steps).filter leadsOn = folder.pieces.filter leadsOn := by
  have starting : folder.origin.pieces.filter leadsOn = [] := by
    unfold origin
    split <;> decide
  have blanks (pieces : List String) : (pieces.dropWhile (· == "")).filter leadsOn = pieces.filter leadsOn := by
    induction pieces with
    | nil => rfl
    | cons piece pieces ih => by_cases blank : piece = "" <;> simp [blank, leadsOn, ih]
  have onward : folder.steps.filter leadsOn = folder.folders.filter leadsOn := by
    unfold steps
    split
    next => exact blanks _
    next => rfl
  rw [List.filter_append, starting, onward, List.nil_append]
  rcases folder.pieces_eq_folders with same | same
  · rw [same]
  · rw [same, List.filter_append, show [""].filter leadsOn = [] by decide, List.append_nil]

theorem isAbsolute_reached (moving : folder.stalls = false) (isName : IsName name.toList) :
    (Search.extend folder.reached name).isAbsolute = folder.isAbsolute := by
  obtain ⟨last, rooted, _⟩ := (passes_name moving isName).steps
  refine last.step.2.1.trans (rooted.trans ?_)
  unfold origin
  split
  next absolute => exact absolute.symm
  next relative => simpa [isAbsolute] using relative

/-- A search finds a name where the path to the folder finds it. -/
theorem follow_reached {tree : FileTree} {start location : Location} (moving : folder.stalls = false)
    (isName : IsName name.toList) :
    tree.follow start (Search.extend folder.reached name).pieces = .ok location ↔
      tree.follow start (folder.pieces ++ [name]) = .ok location := by
  obtain ⟨last, _, led⟩ := (passes_name moving isName).steps
  obtain ⟨_, _, leads⟩ := last.step
  rw [reached, leads, FileTree.follow_append]
  simp only [led]
  rw [← FileTree.follow_append]
  apply FileTree.follow_congr (leadsOn_of_isName isName)
  rw [List.filter_append, filter_steps, List.filter_append]

/-- The path that a search builds takes no more room than the one that it was asked for. -/
theorem sublist_reached (folder : Path) (isName : IsName name.toList) :
    (Search.extend folder.reached name).text.toList.Sublist (folder.join name).text.toList := by
  apply List.cons_sublist_cons.mp
  rw [slash_text (folder.join name), pieces_join folder isName.2.2.2]
  have foldl : Search.extend folder.reached name = (folder.steps ++ [name]).foldl Search.extend folder.origin := by
    rw [List.foldl_append]
    rfl
  rw [foldl]
  unfold origin steps
  split
  next absolute =>
    obtain ⟨others, folders⟩ := folders_of_isAbsolute absolute
    obtain ⟨blanks, ending⟩ : folder.folders.dropWhile (· == "") <:+ others := by
      rw [folders, List.dropWhile_cons_of_pos (by decide)]
      exact List.dropWhile_suffix _
    obtain ⟨first, further, same⟩ :=
      List.exists_cons_of_ne_nil (l := folder.folders.dropWhile (· == "") ++ [name]) (by simp)
    have solid : '/' ∉ first.toList := by
      apply slash_notMem_concat folder isName first
      exact ((List.dropWhile_sublist _).append_right _).subset (same ▸ List.mem_cons_self)
    have starting : Search.extend ⟨"/"⟩ first = ⟨"/" ++ first⟩ := by
      unfold Search.extend join
      rw [if_neg (by decide +kernel), if_neg fun starts => solid (List.mem_of_head? starts), if_neg (by decide),
        if_pos (by decide)]
    have pieces : folder.folders ++ [name] = "" :: blanks ++ first :: further := by
      rw [folders, ← ending, List.cons_append, List.append_assoc, same, List.cons_append]
    rw [same, pieces, List.foldl_cons, starting, List.flatMap_append, List.flatMap_cons, List.flatMap_cons]
    refine (Search.slash_extends ⟨"/" ++ first⟩ further).trans ?_
    simp
  next relative =>
    obtain ⟨first, others, same⟩ := List.exists_cons_of_ne_nil (l := folder.folders ++ [name]) (by simp)
    rw [same, List.foldl_cons, Search.extend_here, List.flatMap_cons]
    exact Search.slash_extends ⟨first⟩ others

end Path

namespace FileTree
open RouteDoc.Path
variable {tree : FileTree} {folder : Path} {name : String} {location : Location}

/-- Where the pieces of a path lead. The empty path stands for the working folder. -/
def inside (tree : FileTree) (folder : Path) : Except FileError Location :=
  tree.follow (if folder.isAbsolute then [] else tree.workingFolder) folder.pieces

theorem resolve_reached (moving : folder.stalls = false) (isName : IsName name.toList)
    (resolved : tree.resolve (folder.join name) = .ok location) :
    tree.resolve (Search.extend folder.reached name) = .ok location := by
  obtain ⟨unended, filled, short, followed⟩ := resolve_eq_ok.mp resolved
  have room := sublist_reached folder isName
  obtain ⟨last, _, _⟩ := (passes_name moving isName).steps
  refine resolve_eq_ok.mpr ⟨fun ended => unended (room.subset ended), ?_, ?_, ?_⟩
  · rcases last.step.1.tidy with here | anchored
    · rw [reached, here]
      decide
    · exact anchored.filled
  · have narrow := Text.width_le_of_sublist room
    rw [Text.width_toList, Text.width_toList] at narrow
    omega
  · rw [isAbsolute_reached moving isName, follow_reached moving isName, ← follow_join folder isName.2.2.2]
    rwa [isAbsolute_join folder isName.2.2.2] at followed

/-- A name is found in the folder, and the search has come to that folder. -/
theorem folder_of_reached (moving : folder.stalls = false) (isName : IsName name.toList)
    (resolved : tree.resolve (Search.extend folder.reached name) = .ok location) :
    ∃ above, location = above ++ [name] ∧ tree.resolve folder.reached = .ok above ∧
      tree.lookup above = some .folder ∧ tree.inside folder = .ok above := by
  obtain ⟨last, _, _⟩ := (passes_name moving isName).steps
  obtain ⟨inside, led, opened, onward⟩ := last.resolve_extend resolved
  have followed := (resolve_eq_ok.mp resolved).2.2.2
  rw [isAbsolute_reached moving isName, follow_reached moving isName] at followed
  obtain ⟨beside, before, _, _, also⟩ := follow_concat.mp followed
  rw [into_name inside isName] at onward
  rw [into_name beside isName, ← onward] at also
  obtain rfl := List.append_inj_left' also rfl
  exact ⟨beside, onward.symm, led, opened, before⟩

end FileTree
end RouteDoc
