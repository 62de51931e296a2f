import RouteDoc.Proofs.FolderPaths
import RouteDoc.Proofs.FoundFiles

/-! Escaped folders. A pattern reads what was escaped as it was: every character of it stands for itself only. So a
pattern for an extension leads by the pieces of the folder, and only the extension can be at fault. -/

namespace RouteDoc

namespace Pattern

/-- A character as it is escaped. -/
def escaped (c : Char) : List Char := if c = '?' ∨ c = '*' ∨ c = '[' ∨ c = ']' then ['[', c, ']'] else [c]

/-- The piece of a pattern that an escaped character is read as. -/
def literal (c : Char) : Wildcard := if c = '?' ∨ c = '*' ∨ c = '[' ∨ c = ']' then .oneOf [(c, c)] else .char c

theorem toList_escape (text : String) : (escape text).toList = text.toList.flatMap escaped :=
  String.toList_ofList

theorem isRun_literal (c : Char) : isRun (literal c) = false := by
  unfold literal
  split <;> rfl

theorem accepts_literal (c d : Char) : accepts d (literal c) = (d == c) := by
  unfold literal
  split
  · rw [Bool.eq_iff_iff]
    simp only [accepts, isWithin, List.any_cons, List.any_nil, Bool.or_false, Bool.and_eq_true, decide_eq_true_eq,
      beq_iff_eq]
    constructor
    · exact fun within => Char.le_antisymm within.2 within.1
    · rintro rfl
      exact ⟨Char.le_refl d, Char.le_refl d⟩
  · rfl

theorem covers_literal (cs : List Char) : covers (cs.map literal) cs = true :=
  Search.covers_map_self isRun_literal (fun c => (accepts_literal c c).trans (beq_self_eq_true c)) cs

theorem literal_shallow (cs : List Char) : cs.map literal ≠ [.folders] := by
  intro same
  obtain ⟨c, _, folders⟩ := List.mem_map.mp (same ▸ List.mem_singleton_self Wildcard.folders)
  cases folders ▸ isRun_literal c

theorem plain?_literal {cs : List Char} {name : String} (plain : plain? (cs.map literal) = some name) :
    String.ofList cs = name := by
  induction cs generalizing name with
  | nil => exact Option.some.inj plain
  | cons c cs ih =>
    rw [List.map_cons, literal] at plain
    split at plain
    · cases plain
    · obtain ⟨others, rest, rfl⟩ := Option.map_eq_some_iff.mp plain
      rw [String.ofList_cons, ih rest]

/-- What is escaped is read as it was, whatever comes before and after it. -/
theorem compileFrom_escaped (cs rest : List Char) (index : Nat) (previous : Option Char) :
    ∃ number last, compileFrom index previous (cs.flatMap escaped ++ rest) =
      (compileFrom number last rest).map (cs.map literal ++ ·) := by
  induction cs generalizing index previous with
  | nil =>
    refine ⟨index, previous, ?_⟩
    rw [List.flatMap_nil, List.nil_append]
    cases compileFrom index previous rest <;> rfl
  | cons c cs ih =>
    have onward {piece : Wildcard} {number : Nat} {last : Option Char} :
        ∃ further final, (compileFrom number last (cs.flatMap escaped ++ rest)).map (piece :: ·) =
          (compileFrom further final rest).map (piece :: cs.map literal ++ ·) := by
      obtain ⟨further, final, same⟩ := ih number last
      refine ⟨further, final, ?_⟩
      rw [same]
      cases compileFrom further final rest <;> rfl
    rw [List.flatMap_cons, List.map_cons, escaped, literal, List.append_assoc]
    by_cases special : c = '?' ∨ c = '*' ∨ c = '[' ∨ c = ']'
    · rw [if_pos special, if_pos special]
      have set : readSet? (c :: ']' :: (cs.flatMap escaped ++ rest)) =
          some (.oneOf [(c, c)], cs.flatMap escaped ++ rest) := by
        rcases special with rfl | rfl | rfl | rfl <;> rfl
      change ∃ number last, compileFrom index previous ('[' :: c :: ']' :: (cs.flatMap escaped ++ rest)) = _
      rw [compileFrom, if_neg (by decide), if_neg (by decide), if_pos rfl]
      split
      next none =>
        rw [set] at none
        cases none
      next read =>
        rw [set] at read
        obtain ⟨rfl, rfl⟩ := Prod.mk.inj (Option.some.inj read)
        exact onward
    · rw [if_neg special, if_neg special]
      simp only [not_or] at special
      change ∃ number last, compileFrom index previous (c :: (cs.flatMap escaped ++ rest)) = _
      rw [Search.compileFrom_plain ⟨special.1, special.2.1, special.2.2.1⟩]
      exact onward

theorem compile_escape (text : String) : compile (escape text) = .ok (text.toList.map literal) := by
  obtain ⟨number, last, same⟩ := compileFrom_escaped text.toList [] 0 none
  rw [List.append_nil, compileFrom] at same
  rw [compile, toList_escape, same]
  exact congrArg Except.ok (List.append_nil _)

theorem toOption_readStars (index other : Nat) (previous : Option Char) (cs : List Char) :
    (readStars index previous cs).toOption = (readStars other previous cs).toOption := by
  unfold readStars
  dsimp only
  split
  · rfl
  split
  · rfl
  split
  · rfl
  split <;> rfl

/-- Whether a pattern has a fault does not depend on where it stands. -/
theorem toOption_compileFrom (index other : Nat) (previous : Option Char) (cs : List Char) :
    (compileFrom index previous cs).toOption = (compileFrom other previous cs).toOption := by
  have onward {piece : Wildcard} {first second : Except PatternError (List Wildcard)}
      (same : first.toOption = second.toOption) :
      (first.map (piece :: ·)).toOption = (second.map (piece :: ·)).toOption := by
    cases first <;> cases second <;> simp_all [Except.map, Except.toOption]
  fun_induction compileFrom index previous cs generalizing other with
  | case1 index previous => rw [compileFrom]
  | case2 index previous cs ih =>
    rw [compileFrom, if_pos rfl]
    exact onward (ih _)
  | case3 index previous cs error stars =>
    have faulty := toOption_readStars index other previous cs
    rw [stars] at faulty
    rw [compileFrom, if_neg (by decide), if_pos rfl]
    split
    next => rfl
    next read => simp [read, Except.toOption] at faulty
  | case4 index previous cs wildcard taken after stars last _ ih =>
    have read := toOption_readStars index other previous cs
    rw [stars] at read
    rw [compileFrom.eq_def other]
    dsimp only
    rw [if_neg (by decide), if_pos rfl]
    split
    next faulty => simp [faulty, Except.toOption] at read
    next again =>
      rw [again] at read
      obtain ⟨rfl, rfl, rfl⟩ := by simpa [Except.toOption] using read
      exact onward (ih _)
  | case5 index previous cs none =>
    rw [compileFrom, if_neg (by decide), if_neg (by decide), if_pos rfl]
    split
    next => rfl
    next read => simp [none] at read
  | case6 index previous cs wildcard after set taken _ _ ih =>
    rw [compileFrom.eq_def other]
    dsimp only
    rw [if_neg (by decide), if_neg (by decide), if_pos rfl]
    split
    next none => simp [set] at none
    next read =>
      obtain ⟨rfl, rfl⟩ := by simpa [set] using read
      exact onward (ih _)
  | case7 index previous c cs any star set ih =>
    rw [compileFrom.eq_def other]
    dsimp only
    rw [if_neg any, if_neg star, if_neg set]
    exact onward (ih _)

theorem pieces_flatMap_escaped (cs : List Char) :
    Text.pieces '/' (cs.flatMap escaped) = (Text.pieces '/' cs).map (·.flatMap escaped) := by
  induction cs with
  | nil => rfl
  | cons c cs ih =>
    rw [List.flatMap_cons]
    by_cases slash : c = '/'
    · subst slash
      change Text.pieces '/' ('/' :: cs.flatMap escaped) = _
      rw [Text.pieces, if_pos rfl, Text.pieces, if_pos rfl, ih]
      rfl
    · have whole : '/' ∉ escaped c := by
        unfold escaped
        split <;> simp [Ne.symm slash]
      obtain ⟨first, others, cut⟩ := List.exists_cons_of_ne_nil (@Text.pieces_ne_nil '/' cs)
      rw [cut, List.map_cons] at ih
      have last : Text.pieces '/' (escaped c) = [] ++ [escaped c] := Text.pieces_of_notMem whole
      rw [Text.pieces_append last ih, Text.pieces_cons slash cut]
      rfl

/-- The pattern for an extension in a folder has no fault but those of the extension. -/
theorem compile_join_escape (folder extension : String) :
    (∃ whole, compile ((Path.mk (escape folder)).join ("*." ++ extension)).text = .ok whole) ↔
      ∃ part, compile ("*." ++ extension) = .ok part := by
  have starred : ("*." ++ extension).toList = '*' :: '.' :: extension.toList := by simp
  obtain ⟨cs, text⟩ : ∃ cs : List Char, ((Path.mk (escape folder)).join ("*." ++ extension)).text.toList =
      cs.flatMap escaped ++ ("*." ++ extension).toList := by
    unfold Path.join
    rw [if_neg (by simp)]
    split
    · exact ⟨[], rfl⟩
    split
    · exact ⟨folder.toList, by rw [String.toList_append, toList_escape]⟩
    · exact ⟨folder.toList ++ ['/'], by simp [toList_escape, escaped]⟩
  obtain ⟨number, last, same⟩ := compileFrom_escaped cs ("*." ++ extension).toList 0 none
  have faults := toOption_compileFrom (number + 1 + 1) (0 + 1 + 1) (some '.') extension.toList
  rw [compile, compile, text, same, starred]
  rw [Search.compileFrom_star (by decide), Search.compileFrom_star (by decide)]
  rw [Search.compileFrom_plain (by decide), Search.compileFrom_plain (by decide)]
  cases first : compileFrom (number + 1 + 1) (some '.') extension.toList with
  | error =>
    cases second : compileFrom (0 + 1 + 1) (some '.') extension.toList with
    | error => simp [Except.map]
    | ok => simp [first, second, Except.toOption] at faults
  | ok =>
    cases second : compileFrom (0 + 1 + 1) (some '.') extension.toList with
    | error => simp [first, second, Except.toOption] at faults
    | ok => simp [Except.map]

end Pattern

/-! Paths. -/

namespace Path
open Pattern

theorem pieces_escape (path : Path) : pieces ⟨escape path.text⟩ = path.pieces.map escape := by
  unfold pieces
  rw [toList_escape, pieces_flatMap_escaped, List.map_map, List.map_map]
  apply List.map_congr_left
  intro piece _
  rw [Function.comp, Function.comp, escape, String.toList_ofList]
  rfl

theorem escape_eq_empty_iff (text : String) : escape text = "" ↔ text = "" := by
  rw [← String.toList_inj, toList_escape, ← @String.toList_inj text]
  cases text.toList with
  | nil => rfl
  | cons c cs => simp [escaped]; split <;> simp

theorem isAbsolute_escape (path : Path) : isAbsolute ⟨escape path.text⟩ = path.isAbsolute := by
  unfold isAbsolute
  rw [toList_escape]
  cases path.text.toList with
  | nil => rfl
  | cons c cs =>
    rw [List.flatMap_cons, escaped]
    split
    next special => rcases special with rfl | rfl | rfl | rfl <;> rfl
    next => rfl

theorem getLast?_escape (text : String) : (escape text).toList.getLast? = some '/' ↔ text.toList.getLast? = some '/' := by
  rw [toList_escape]
  rcases List.eq_nil_or_concat text.toList with none | ⟨front, last, same⟩
  · rw [none]
    rfl
  · rw [same, List.concat_eq_append, List.flatMap_append, List.getLast?_append, List.getLast?_concat, List.flatMap_singleton,
      escaped]
    split
    next special => rcases special with rfl | rfl | rfl | rfl <;> simp
    next => simp

theorem folders_escape (path : Path) : folders ⟨escape path.text⟩ = path.folders.map escape := by
  unfold folders
  simp only [escape_eq_empty_iff, getLast?_escape, pieces_escape]
  split
  · exact (List.map_dropLast).symm
  · rfl

/-- A pattern for names in a folder leads there by the pieces of the folder. -/
theorem startAndParts_escape (folder : Path) {name : String} (filled : name ≠ "") (whole : '/' ∉ name.toList) :
    Search.startAndParts ((Path.mk (escape folder.text)).join name) =
      (folder.origin, folder.steps.map escape ++ [name]) := by
  have blanks (pieces : List String) : (pieces.map escape ++ [name]).dropWhile (· == "") =
      (pieces.dropWhile (· == "")).map escape ++ [name] := by
    induction pieces with
    | nil => simp [filled]
    | cons piece pieces ih => by_cases blank : piece = "" <;> simp [blank, escape_eq_empty_iff, ih]
  unfold Search.startAndParts origin steps
  rw [isAbsolute_join _ whole, isAbsolute_escape, pieces_join _ whole, folders_escape]
  split
  · rw [blanks]
  · rfl

end Path

end RouteDoc
