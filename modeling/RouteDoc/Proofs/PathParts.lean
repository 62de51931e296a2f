import RouteDoc.Proofs.FileNames

/-! Paths with the same parts. An empty piece and a single dot lead nowhere: they only ask for a folder where they
stand. So two paths with the same parts lead to the same entry, unless one of them asks for a folder at its end.
By their parts, paths have an order. -/

namespace RouteDoc
namespace Path

/-- Whether a piece of a path leads on from where it stands. -/
def leadsOn (piece : String) : Bool := piece != "" && piece != "."

theorem leadsOn_of_isName {name : String} (isName : IsName name.toList) : leadsOn name = true := by
  have blank : name ≠ "" := by
    rintro rfl
    exact isName.1 rfl
  have here : name ≠ "." := by
    rintro rfl
    exact isName.2.1 rfl
  simp [leadsOn, blank, here]

theorem pieces_ne_nil (path : Path) : path.pieces ≠ [] := by
  unfold pieces
  simpa using Text.pieces_ne_nil path.text.toList

/-- The parts of a path hold the pieces that lead on. -/
theorem filter_parts (path : Path) :
    path.parts.filter (fun part => part != "." && part != "/") = path.pieces.filter leadsOn := by
  have names : (path.pieces.filter (· != "")).filter (fun part => part != "." && part != "/") =
      path.pieces.filter leadsOn := by
    rw [List.filter_filter]
    apply List.filter_congr
    intro piece member
    have whole : (piece != "/") = true := by
      rw [bne_iff_ne]
      rintro rfl
      exact slash_notMem_pieces member (by decide)
    rw [whole, Bool.and_true, leadsOn, Bool.and_comm]
  have dotless (names : List String) : (names.filter (· != ".")).filter (fun part => part != "." && part != "/") =
      names.filter (fun part => part != "." && part != "/") := by
    rw [List.filter_filter]
    apply List.filter_congr
    intro piece _
    cases piece != "." <;> simp
  rw [← names]
  unfold parts
  dsimp only
  split
  · rw [List.filter_cons_of_neg (by decide), dotless]
  split
  next same => rw [same, List.filter_cons_of_neg (by decide), List.filter_cons_of_neg (by decide), dotless]
  next => exact dotless _

/-- The parts of a path tell whether it starts at the root. -/
theorem isAbsolute_iff_parts (path : Path) : path.isAbsolute = true ↔ path.parts.head? = some "/" := by
  have whole : ∀ piece ∈ path.pieces.filter (· != ""), piece ≠ "/" := by
    rintro piece member rfl
    exact slash_notMem_pieces (List.mem_filter.mp member).1 (by decide)
  unfold parts
  dsimp only
  split
  next absolute => simp [absolute]
  next relative =>
    refine ⟨fun absolute => absurd absolute relative, ?_⟩
    split
    next => simp
    next =>
      intro starts
      exact absurd rfl (whole _ (List.mem_filter.mp (List.mem_of_head? starts)).1)

/-- The parts of a path end with the last piece, if that leads on. -/
theorem getLast?_parts {path : Path} {front : List String} {last : String} (pieces : path.pieces = front ++ [last])
    (leads : leadsOn last = true) : path.parts.getLast? = some last := by
  have ⟨filled, other⟩ : last ≠ "" ∧ last ≠ "." := by simpa [leadsOn] using leads
  have ended (names : List String) : ((names ++ [last]).filter (· != ".")).getLast? = some last := by
    rw [List.filter_append, List.filter_cons_of_pos (by simpa using other), List.filter_nil, List.getLast?_append]
    rfl
  unfold Path.parts
  rw [pieces, List.filter_append, List.filter_cons_of_pos (by simpa using filled), List.filter_nil]
  dsimp only
  split
  · rw [List.getLast?_cons, ended]
    rfl
  · cases front.filter (· != "") with
    | nil =>
      rw [List.nil_append]
      split
      next same => exact absurd (List.cons.inj same).1 other
      next => exact ended []
    | cons first others =>
      split
      next same =>
        obtain ⟨_, rfl⟩ := List.cons.inj same
        exact List.getLast?_cons.trans (congrArg (fun found => some (found.getD ".")) (ended others))
      next => exact ended _

/-- The parts of a path end with the name that the path ends with. -/
theorem EndsIn.parts {path : Path} {head name : List Char} (ends : path.EndsIn head name) :
    path.parts.getLast? = some (String.ofList name) := by
  obtain ⟨front, pieces⟩ := ends.pieces
  exact getLast?_parts pieces (leadsOn_of_isName (by rw [String.toList_ofList]; exact ends.isName))

end Path

/-! Following pieces. -/

namespace FileTree
open RouteDoc.Path
variable {tree earlier : FileTree} {start location : Location} {pieces : List String}

theorem into_of_not_leadsOn {piece : String} (still : leadsOn piece = false) (folder : Location) :
    into folder piece = folder := by
  have here : piece = "" ∨ piece = "." := by
    simp only [leadsOn, Bool.and_eq_false_iff, bne_eq_false_iff_eq] at still
    exact still
  rw [into, if_pos here]

/-- Where pieces lead does not depend on the tree, as long as they lead anywhere. -/
theorem follow_eq_foldl (followed : tree.follow start pieces = .ok location) : location = pieces.foldl into start := by
  induction pieces generalizing start with
  | nil => exact (Except.ok.inj followed).symm
  | cons piece pieces ih => exact ih (follow_cons.mp followed).2.2

theorem resolve_unique {path : Path} {other : Location} (rooted : earlier.workingFolder = tree.workingFolder)
    (resolved : tree.resolve path = .ok location) (before : earlier.resolve path = .ok other) : other = location := by
  have now := follow_eq_foldl (resolve_eq_ok.mp resolved).2.2.2
  have then_ := follow_eq_foldl (resolve_eq_ok.mp before).2.2.2
  rw [now, then_, rooted]

theorem follow_filter (followed : tree.follow start pieces = .ok location) :
    tree.follow start (pieces.filter leadsOn) = .ok location := by
  induction pieces generalizing start with
  | nil => exact followed
  | cons piece pieces ih =>
    obtain ⟨folder, short, rest⟩ := follow_cons.mp followed
    by_cases leads : leadsOn piece = true
    · rw [List.filter_cons_of_pos leads]
      exact follow_cons.mpr ⟨folder, short, ih rest⟩
    · rw [List.filter_cons_of_neg leads]
      rw [into_of_not_leadsOn (by simpa using leads)] at rest
      exact ih rest

/-- Pieces that lead nowhere ask for a folder, and the next piece that leads on asks for it anyway. -/
theorem follow_of_filter {last : String} (leads : leadsOn last = true)
    (followed : tree.follow start ((pieces ++ [last]).filter leadsOn) = .ok location) :
    tree.follow start (pieces ++ [last]) = .ok location := by
  induction pieces generalizing start with
  | nil => simpa [leads] using followed
  | cons piece pieces ih =>
    rw [List.cons_append] at followed ⊢
    by_cases onward : leadsOn piece = true
    · rw [List.filter_cons_of_pos onward] at followed
      obtain ⟨folder, short, rest⟩ := follow_cons.mp followed
      exact follow_cons.mpr ⟨folder, short, ih rest⟩
    · rw [List.filter_cons_of_neg onward] at followed
      have folder : tree.lookup start = some .folder := by
        rw [List.filter_append, List.filter_cons_of_pos leads] at followed
        cases same : pieces.filter leadsOn with
        | nil => exact (follow_cons.mp (by simpa [same] using followed)).1
        | cons first others => exact (follow_cons.mp (by simpa [same] using followed)).1
      have still : leadsOn piece = false := by simpa using onward
      have short : piece.utf8ByteSize ≤ longestName := by
        simp only [leadsOn, Bool.and_eq_false_iff, bne_eq_false_iff_eq] at still
        rcases still with rfl | rfl <;> decide
      refine follow_cons.mpr ⟨folder, short, ?_⟩
      rw [into_of_not_leadsOn still]
      exact ih followed

theorem follow_congr {others : List String} {last : String} (leads : leadsOn last = true)
    (same : (pieces ++ [last]).filter leadsOn = (others ++ [last]).filter leadsOn) :
    tree.follow start (pieces ++ [last]) = .ok location ↔ tree.follow start (others ++ [last]) = .ok location := by
  constructor
  · intro followed
    exact follow_of_filter leads (same ▸ follow_filter followed)
  · intro followed
    exact follow_of_filter leads (same ▸ follow_filter followed)

/-- Paths with the same parts lead to the same entry, if the one does not ask for a folder at its end: it led to a
file in some tree. -/
theorem entry_of_parts {path other : Path} {entry : Entry} (led : earlier.isFile path = true)
    (same : path.parts = other.parts) (found : tree.entry other = .ok entry) : tree.entry path = .ok entry := by
  unfold isFile at led
  split at led
  next content time before =>
    obtain ⟨target, resolved, file⟩ := entry_eq_ok.mp before
    obtain ⟨unended, filled, short, followed⟩ := resolve_eq_ok.mp resolved
    obtain ⟨location, reached, held⟩ := entry_eq_ok.mp found
    have rooted : path.isAbsolute = other.isAbsolute := by
      rw [Bool.eq_iff_iff, isAbsolute_iff_parts, isAbsolute_iff_parts, same]
    have leading : path.pieces.filter leadsOn = other.pieces.filter leadsOn := by
      rw [← filter_parts, ← filter_parts, same]
    rcases List.eq_nil_or_concat path.pieces with none | ⟨front, last, pieces⟩
    · exact absurd none path.pieces_ne_nil
    rw [List.concat_eq_append] at pieces
    have leads : leadsOn last = true := by
      rw [pieces] at followed
      obtain ⟨folder, opened, rfl⟩ := follow_last followed
      cases onward : leadsOn last with
      | true => rfl
      | false =>
        rw [into_of_not_leadsOn onward, opened] at file
        cases file
    refine entry_eq_ok.mpr ⟨location, resolve_eq_ok.mpr ⟨unended, filled, short, ?_⟩, held⟩
    have filtered := follow_filter (resolve_eq_ok.mp reached).2.2.2
    rw [← leading, ← rooted, pieces] at filtered
    rw [pieces]
    exact follow_of_filter leads filtered
  next => cases led

end FileTree

/-! The order of paths. -/

namespace Path

theorem partLe_iff {first second : String} : partLe first second = true ↔
    kind first < kind second ∨ kind first = kind second ∧ first ≤ second := by
  unfold partLe
  split
  next same => simp [same]
  next different => simp [different]

theorem partLe_total (first second : String) : partLe first second = true ∨ partLe second first = true := by
  rw [partLe_iff, partLe_iff]
  rcases Nat.lt_trichotomy (kind first) (kind second) with before | same | after
  · exact .inl (.inl before)
  · exact (String.le_total first second).imp (fun lower => .inr ⟨same, lower⟩) (fun lower => .inr ⟨same.symm, lower⟩)
  · exact .inr (.inl after)

theorem partLe_trans {first second third : String} (lower : partLe first second = true)
    (upper : partLe second third = true) : partLe first third = true := by
  rw [partLe_iff] at lower upper ⊢
  rcases lower with before | ⟨same, lower⟩
  · left
    omega
  · rcases upper with before | ⟨equal, upper⟩
    · left
      omega
    · exact .inr ⟨same.trans equal, String.le_trans lower upper⟩

theorem partLe_antisymm {first second : String} (lower : partLe first second = true)
    (upper : partLe second first = true) : first = second := by
  rw [partLe_iff] at lower upper
  rcases lower with before | ⟨same, lower⟩
  · omega
  · rcases upper with before | ⟨_, upper⟩
    · omega
    · exact String.le_antisymm lower upper

theorem partsLe_total (first second : List String) : partsLe first second = true ∨ partsLe second first = true := by
  fun_induction partsLe first second with
  | case1 => exact .inl rfl
  | case2 => exact .inr rfl
  | case3 a first second ih => simpa [partsLe] using ih
  | case4 a first b second different => simpa [partsLe, Ne.symm different] using partLe_total a b

/-- The first difference of two lists decides, and so does that of the second list and a third, whichever comes
first. -/
theorem partsLe_trans {first second third : List String} (lower : partsLe first second = true)
    (upper : partsLe second third = true) : partsLe first third = true := by
  fun_induction partsLe first second generalizing third with
  | case1 => rfl
  | case2 => cases lower
  | case3 a first second ih =>
    cases third with
    | nil => cases upper
    | cons c third =>
      unfold partsLe at upper ⊢
      split at upper
      next same =>
        rw [if_pos same]
        exact ih lower upper
      next different =>
        rw [if_neg different]
        exact upper
  | case4 a first b second different =>
    cases third with
    | nil => cases upper
    | cons c third =>
      unfold partsLe at upper ⊢
      split at upper
      next same =>
        rw [← same, if_neg different]
        exact lower
      next =>
        have apart : a ≠ c := by
          rintro rfl
          exact different (partLe_antisymm lower upper)
        rw [if_neg apart]
        exact partLe_trans lower upper

theorem sorted_mergeSort (paths : List Path) :
    (paths.mergeSort le).Pairwise fun first second => le first second = true := by
  apply List.pairwise_mergeSort
  · exact fun first second third => partsLe_trans
  · intro first second
    rw [Bool.or_eq_true]
    exact partsLe_total first.parts second.parts

end Path
end RouteDoc
