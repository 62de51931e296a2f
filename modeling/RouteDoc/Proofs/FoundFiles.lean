import RouteDoc.Proofs.FileNames

/-! What a search for an extension finds. The pattern ends with the only part that has a star of its own, so
every path that is found was reached by one of the names in a folder, and that name is matched by the last part. -/

namespace RouteDoc

/-- A path that ends with a name that a part of a pattern matches. -/
def Path.Selected (part : List Wildcard) (path : Path) : Prop :=
  ∃ head name, path.EndsIn head name ∧ Pattern.covers part name = true

namespace Search
open RouteDoc.Path
variable {tree : FileTree} {part : List Wildcard}

/-! Names in folders. -/

/-- The name of a location in a folder, if it is in that folder. -/
def nameIn? (folder location : Location) : Option String :=
  match location.getLast? with
  | some name => if location = folder ++ [name] then some name else none
  | none => none

theorem nameIn?_eq_some {folder location : Location} {name : String} :
    nameIn? folder location = some name ↔ location = folder ++ [name] := by
  constructor
  · intro named
    unfold nameIn? at named
    split at named
    next =>
      obtain ⟨inside, same⟩ := Option.ite_none_right_eq_some.mp named
      rwa [← Option.some.inj same]
    next => cases named
  · rintro rfl
    rw [nameIn?, List.getLast?_concat]
    exact if_pos rfl

theorem names_eq {path : Path} {folder : Location} (resolved : tree.resolve path = .ok folder) :
    tree.names path = tree.entries.filterMap fun entry => nameIn? folder entry.1 := by
  rw [FileTree.names, resolved]
  rfl

theorem mem_names {path : Path} {name : String} :
    name ∈ tree.names path ↔
      ∃ folder, tree.resolve path = .ok folder ∧ folder ++ [name] ∈ tree.entries.map Prod.fst := by
  cases resolved : tree.resolve path with
  | error => simp [FileTree.names, resolved]
  | ok folder =>
    rw [names_eq resolved, List.mem_filterMap]
    simp [nameIn?_eq_some]

theorem isName_of_mem_names (proper : tree.Proper) {folder : Path} {name : String}
    (member : name ∈ tree.names folder) : IsName name.toList := by
  obtain ⟨inside, _, listed⟩ := mem_names.mp member
  obtain ⟨entry, among, place⟩ := List.mem_map.mp listed
  exact proper.names entry among name (by simp [place])

theorem mem_sortedNames {folder : Path} {name : String} :
    name ∈ sortedNames tree folder ↔ name ∈ tree.names folder := by
  simp [sortedNames]

theorem extend_of_mem_below {start next : Path} {depth : Nat} (member : next ∈ below tree start depth) :
    ∃ folder, ∃ name ∈ tree.names folder, next = extend folder name := by
  induction depth generalizing start with
  | zero => cases member
  | succ depth ih =>
    rw [below] at member
    split at member
    · obtain ⟨name, listed, member⟩ := List.mem_flatMap.mp member
      rcases List.mem_cons.mp member with rfl | member
      · exact ⟨start, name, mem_sortedNames.mp listed, rfl⟩
      · exact ih member
    · cases member

/-! The last part of a pattern. -/

theorem selected_of_mem_tryNames (proper : tree.Proper) (undotted : part.head? ≠ some (.char '.'))
    {folder next : Path} (member : next ∈ tryNames tree folder part) : next.Selected part := by
  unfold tryNames dotNames at member
  rw [if_neg undotted] at member
  split at member
  · rw [List.map_nil, List.nil_append] at member
    obtain ⟨name, filtered, rfl⟩ := List.mem_map.mp member
    obtain ⟨listed, covered⟩ := List.mem_filter.mp filtered
    obtain ⟨head, ends⟩ := endsIn_extend folder (isName_of_mem_names proper (mem_sortedNames.mp listed))
    exact ⟨head, name.toList, ends, covered⟩
  · cases member

theorem selected_of_mem_namesBelow (proper : tree.Proper) {folder next : Path}
    (member : next ∈ namesBelow tree folder part) : next.Selected part := by
  obtain ⟨lower, covered⟩ := List.mem_filter.mp member
  obtain ⟨above, name, listed, rfl⟩ := extend_of_mem_below lower
  obtain ⟨head, ends⟩ := endsIn_extend above (isName_of_mem_names proper listed)
  rw [ends.headAndName?] at covered
  exact ⟨head, name.toList, ends, covered⟩

/-- Whatever stands before it, the last part of a pattern matches the names at the ends of the paths. -/
theorem selected_of_mem_expand (proper : tree.Proper) (undotted : part.head? ≠ some (.char '.'))
    (wild : Pattern.plain? part = none) (shallow : part ≠ [.folders]) {deep : Bool} {front : List (List Wildcard)}
    {start found : Path} (member : found ∈ expand tree deep (front ++ [part]) start) : found.Selected part := by
  induction front generalizing deep start with
  | nil =>
    rw [List.nil_append, expand, if_neg shallow, wild] at member
    split at member
    · obtain ⟨next, lower, ends⟩ := List.mem_flatMap.mp member
      obtain rfl := List.mem_singleton.mp ends
      exact selected_of_mem_namesBelow proper lower
    · obtain ⟨next, tried, ends⟩ := List.mem_flatMap.mp member
      obtain rfl := List.mem_singleton.mp ends
      exact selected_of_mem_tryNames proper undotted tried
  | cons first front ih =>
    rw [List.cons_append, expand] at member
    split at member
    · exact ih member
    split at member
    · obtain ⟨next, _, member⟩ := List.mem_flatMap.mp member
      exact ih member
    split at member
    all_goals
      obtain ⟨next, _, member⟩ := List.mem_flatMap.mp member
      exact ih member

/-! Patterns for extensions. -/

theorem compileParts_append {front : List String} {last : String} {compiled : List (List Wildcard)}
    (read : compileParts (front ++ [last]) = .ok compiled) :
    ∃ parts part, compiled = parts ++ [part] ∧ compileParts front = .ok parts ∧ Pattern.compile last = .ok part := by
  induction front generalizing compiled with
  | nil =>
    rw [List.nil_append, compileParts] at read
    split at read
    · cases read
    next part compiles => exact ⟨[], part, (Except.ok.inj read).symm, rfl, compiles⟩
  | cons first front ih =>
    rw [List.cons_append, compileParts] at read
    split at read
    · cases read
    next wildcards starts =>
      cases rest : compileParts (front ++ [last]) with
      | error => simp [rest, Except.map] at read
      | ok others =>
        obtain ⟨parts, part, rfl, before, compiles⟩ := ih rest
        rw [rest] at read
        refine ⟨wildcards :: parts, part, (Except.ok.inj read).symm, ?_, compiles⟩
        rw [compileParts, starts, before]
        rfl

/-- A character that means itself in a pattern. -/
def IsPlain (c : Char) : Prop := c ≠ '?' ∧ c ≠ '*' ∧ c ≠ '['

instance : DecidablePred IsPlain := fun _ => inferInstanceAs (Decidable (_ ∧ _))

theorem compileFrom_plain {c : Char} (plain : IsPlain c) (index : Nat) (previous : Option Char) (rest : List Char) :
    Pattern.compileFrom index previous (c :: rest) =
      (Pattern.compileFrom (index + 1) (some c) rest).map (.char c :: ·) := by
  rw [Pattern.compileFrom, if_neg plain.1, if_neg plain.2.1, if_neg plain.2.2]

theorem compileFrom_star {c : Char} (other : c ≠ '*') (index : Nat) (previous : Option Char) (rest : List Char) :
    Pattern.compileFrom index previous ('*' :: c :: rest) =
      (Pattern.compileFrom (index + 1) (some '*') (c :: rest)).map (.sequence :: ·) := by
  have single : Pattern.readStars index previous (c :: rest) = .ok (.sequence, 1, c :: rest) := by
    simp [Pattern.readStars, other]
  rw [Pattern.compileFrom, if_neg (by decide), if_pos rfl]
  split
  next stars =>
    rw [single] at stars
    cases stars
  next stars =>
    rw [single] at stars
    obtain ⟨rfl, rfl, rfl⟩ := by simpa using stars
    rfl

theorem compile_extension {extension : String} (compiles : Pattern.compile ("*." ++ extension) = .ok part) :
    ∃ rest, part = .sequence :: .char '.' :: rest := by
  have starred : ("*." ++ extension).toList = '*' :: '.' :: extension.toList := by simp
  rw [Pattern.compile, starred, compileFrom_star (by decide), compileFrom_plain (by decide)] at compiles
  cases ends : Pattern.compileFrom (0 + 1 + 1) (some '.') extension.toList with
  | error => simp [ends, Except.map] at compiles
  | ok rest =>
    rw [ends] at compiles
    exact ⟨rest, (Except.ok.inj compiles).symm⟩

theorem parts_of_pieces {pattern : Path} {front : List String} {last : String} (filled : last ≠ "")
    (pieces : pattern.pieces = front ++ [last]) :
    ∃ before, before <:+ front ∧ (startAndParts pattern).2 = before ++ [last] := by
  unfold startAndParts
  split
  · refine ⟨front.dropWhile (· == ""), List.dropWhile_suffix _, ?_⟩
    rw [pieces, List.dropWhile_append]
    split
    next empty => simp [List.isEmpty_iff.mp empty, filled]
    next => rfl
  · exact ⟨front, List.suffix_rfl, pieces⟩

/-- A search follows the parts of the pattern before the last one, and then the last one. -/
theorem run_eq_ok {pattern : Path} {front : List String} {last : String} {paths : List Path} (filled : last ≠ "")
    (pieces : pattern.pieces = front ++ [last]) (found : run tree pattern = .ok paths) :
    ∃ before parts part, before <:+ front ∧ compileParts before = .ok parts ∧ Pattern.compile last = .ok part ∧
      paths = expand tree false (parts ++ [part]) (startAndParts pattern).1 := by
  obtain ⟨before, ending, cut⟩ := parts_of_pieces filled pieces
  unfold run at found
  split at found
  · cases found
  · dsimp only at found
    rw [cut] at found
    cases read : compileParts (before ++ [last]) with
    | error => simp [read, Except.map] at found
    | ok compiled =>
      rw [read] at found
      obtain ⟨parts, part, rfl, starts, compiles⟩ := compileParts_append read
      exact ⟨before, parts, part, ending, starts, compiles, (Except.ok.inj found).symm⟩

theorem selected_of_run (proper : tree.Proper) {pattern : Path} {extension : String} {front : List String}
    {paths : List Path} (pieces : pattern.pieces = front ++ ["*." ++ extension])
    (found : run tree pattern = .ok paths) :
    ∃ part, Pattern.compile ("*." ++ extension) = .ok part ∧ ∀ path ∈ paths, path.Selected part := by
  obtain ⟨_, _, part, _, _, compiles, rfl⟩ := run_eq_ok (by simp) pieces found
  obtain ⟨rest, rfl⟩ := compile_extension compiles
  refine ⟨_, compiles, ?_⟩
  intro path member
  exact selected_of_mem_expand proper (by simp) rfl (by simp) member

/-- What a search finds are files, and the names at the ends of their paths match the star, the dot and the
extension. -/
theorem selected_of_discover (proper : tree.Proper) {folder : Path} {extension : String} {files : List Path}
    (whole : '/' ∉ extension.toList) (found : discover tree folder extension = .ok files) :
    ∃ part, Pattern.compile ("*." ++ extension) = .ok part ∧
      ∀ file ∈ files, tree.isFile file = true ∧ file.Selected part := by
  have isName : IsName ("*." ++ extension).toList := by simp [IsName, whole]
  obtain ⟨head, ends⟩ := endsIn_join ⟨Pattern.escape folder.text⟩ isName
  obtain ⟨front, pieces⟩ := ends.pieces
  rw [String.ofList_toList] at pieces
  simp only [discover] at found
  split at found
  · cases found
  next paths runs =>
    obtain ⟨part, compiles, selected⟩ := selected_of_run proper pieces runs
    obtain rfl := Except.ok.inj found
    refine ⟨part, compiles, ?_⟩
    intro file member
    rw [List.mem_mergeSort, List.mem_filter] at member
    exact ⟨member.2, selected file member.1⟩

/-! Extensions without wildcards. -/

theorem compileFrom_map {cs : List Char} (plain : ∀ c ∈ cs, IsPlain c) (index : Nat) (previous : Option Char) :
    Pattern.compileFrom index previous cs = .ok (cs.map .char) := by
  induction cs generalizing index previous with
  | nil => rw [Pattern.compileFrom]; rfl
  | cons c cs ih =>
    obtain ⟨first, others⟩ := List.forall_mem_cons.mp plain
    rw [compileFrom_plain first, ih others]
    rfl

/-- Pieces that stand for one character each match one text only. -/
theorem covers_map {stands : Char → Wildcard} (single : ∀ c, Pattern.isRun (stands c) = false)
    (only : ∀ c d, Pattern.accepts d (stands c) = (d == c)) {cs name : List Char}
    (covered : Pattern.covers (cs.map stands) name = true) : name = cs := by
  induction cs generalizing name with
  | nil => simpa [Pattern.covers_nil] using covered
  | cons c cs ih =>
    cases name with
    | nil =>
      rw [List.map_cons, Pattern.covers_single_nil (single c)] at covered
      cases covered
    | cons d name =>
      rw [List.map_cons, Pattern.covers_single (single c), Bool.and_eq_true, only] at covered
      rw [ih covered.2, eq_of_beq covered.1]

theorem covers_map_self {stands : Char → Wildcard} (single : ∀ c, Pattern.isRun (stands c) = false)
    (accepted : ∀ c, Pattern.accepts c (stands c) = true) (cs : List Char) :
    Pattern.covers (cs.map stands) cs = true := by
  induction cs with
  | nil => rfl
  | cons c cs ih => rw [List.map_cons, Pattern.covers_single (single c), accepted, ih, Bool.and_true]

theorem covers_star {rest : List Wildcard} {name : List Char}
    (covered : Pattern.covers (.sequence :: rest) name = true) :
    ∃ ending, ending <:+ name ∧ Pattern.covers rest ending = true := by
  induction name with
  | nil =>
    rw [Pattern.covers_run_nil rfl] at covered
    exact ⟨[], List.suffix_rfl, covered⟩
  | cons c name ih =>
    rw [Pattern.covers_run rfl, Bool.or_eq_true] at covered
    rcases covered with here | later
    · exact ⟨c :: name, List.suffix_rfl, here⟩
    · obtain ⟨ending, below, matched⟩ := ih later
      exact ⟨ending, below.trans (List.suffix_cons c name), matched⟩

theorem compile_plain {extension : String} (plain : ∀ c ∈ extension.toList, IsPlain c) :
    Pattern.compile ("*." ++ extension) = .ok (.sequence :: ('.' :: extension.toList).map .char) := by
  have starred : ("*." ++ extension).toList = '*' :: '.' :: extension.toList := by simp
  rw [Pattern.compile, starred, compileFrom_star (by decide), compileFrom_plain (by decide), compileFrom_map plain]
  rfl

/-- An extension without wildcards matches the names that end with it. -/
theorem suffix_of_covers {extension : String} (plain : ∀ c ∈ extension.toList, IsPlain c)
    (compiles : Pattern.compile ("*." ++ extension) = .ok part) {name : List Char}
    (covered : Pattern.covers part name = true) : '.' :: extension.toList <:+ name := by
  rw [compile_plain plain] at compiles
  obtain rfl := Except.ok.inj compiles
  obtain ⟨ending, below, matched⟩ := covers_star covered
  rwa [covers_map (fun _ => rfl) (fun _ _ => rfl) matched] at below

/-- What a search in the working folder finds: the files among the names that match, sorted. -/
theorem discover_here {extension : String} {names : List String} {files : List Path}
    (plain : ∀ c ∈ extension.toList, IsPlain c) (whole : '/' ∉ extension.toList)
    (opened : tree.isFolder ⟨"."⟩ = true) (listed : sortedNames tree ⟨"."⟩ = names)
    (selected : ((names.filter fun name => Pattern.covers (.sequence :: ('.' :: extension.toList).map .char)
      name.toList).map Path.mk).filter tree.isFile = files) :
    discover tree ⟨""⟩ extension = .ok (files.mergeSort Path.le) := by
  subst listed selected
  have pattern : Path.join ⟨Pattern.escape ""⟩ ("*." ++ extension) = ⟨"*." ++ extension⟩ := by
    unfold Path.join
    rw [if_neg (by simp), if_pos (by decide)]
  have start : startAndParts ⟨"*." ++ extension⟩ = (⟨"."⟩, ["*." ++ extension]) := by
    have relative : Path.isAbsolute ⟨"*." ++ extension⟩ = false := by simp [Path.isAbsolute]
    have single : Path.pieces ⟨"*." ++ extension⟩ = ["*." ++ extension] := by
      rw [Path.pieces, Text.pieces_of_notMem (by simp [whole]), List.map_singleton, String.ofList_toList]
    rw [startAndParts, relative, single]
    rfl
  have extended : extend ⟨"."⟩ = Path.mk := by
    funext name
    rw [extend, if_pos (by decide +kernel)]
  have expanded (rest : List Wildcard) : expand tree false [.sequence :: .char '.' :: rest] ⟨"."⟩ =
      ((sortedNames tree ⟨"."⟩).filter fun name =>
        Pattern.covers (.sequence :: .char '.' :: rest) name.toList).map Path.mk := by
    simp [expand, Pattern.plain?, tryNames, dotNames, opened, extended]
  simp only [discover, pattern, run, compile_plain plain, start, compileParts]
  exact congrArg (fun paths => Except.ok ((List.filter tree.isFile paths).mergeSort Path.le)) (expanded _)

/-- What a search in the working folder finds if it holds nothing but files with that extension, in their order. -/
theorem discover_all {extension : String} (names : List String) (plain : ∀ c ∈ extension.toList, IsPlain c)
    (whole : '/' ∉ extension.toList) (opened : tree.isFolder ⟨"."⟩ = true) (listed : tree.names ⟨"."⟩ = names)
    (covered : ∀ name ∈ names,
      Pattern.covers (.sequence :: ('.' :: extension.toList).map .char) name.toList = true)
    (isFile : ∀ name ∈ names, tree.isFile ⟨name⟩ = true)
    (sorted : names.Pairwise fun first second => decide (first ≤ second) = true)
    (ordered : (names.map Path.mk).Pairwise fun first second => Path.le first second = true) :
    discover tree ⟨""⟩ extension = .ok (names.map Path.mk) := by
  have ranked : sortedNames tree ⟨"."⟩ = names := by
    rw [sortedNames, listed]
    exact List.mergeSort_of_pairwise sorted
  have selected : ((names.filter fun name => Pattern.covers (.sequence :: ('.' :: extension.toList).map .char)
      name.toList).map Path.mk).filter tree.isFile = names.map Path.mk := by
    rw [List.filter_eq_self.mpr covered, List.filter_eq_self]
    intro path member
    obtain ⟨name, among, rfl⟩ := List.mem_map.mp member
    exact isFile name among
  have found := discover_here plain whole opened ranked selected
  rwa [List.mergeSort_of_pairwise ordered] at found

end Search
end RouteDoc
