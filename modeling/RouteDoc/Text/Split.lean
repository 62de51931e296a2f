/-!
Cutting texts at a character.
-/

namespace RouteDoc.Text

/-- The characters before the first `mark`, and those after it, if there is a `mark`. -/
def cutAt? (mark : Char) : List Char → Option (List Char × List Char)
  | [] => none
  | c :: rest =>
    if c = mark then some ([], rest)
    else (cutAt? mark rest).map fun (before, after) => (c :: before, after)

theorem length_cutAt? {mark : Char} {cs before after : List Char}
    (found : cutAt? mark cs = some (before, after)) :
    cs.length = before.length + 1 + after.length := by
  induction cs generalizing before with
  | nil => simp [cutAt?] at found
  | cons c cs ih =>
    unfold cutAt? at found
    split at found
    · simp only [Option.some.injEq, Prod.mk.injEq] at found
      obtain ⟨rfl, rfl⟩ := found
      simp [Nat.add_comm]
    · obtain ⟨⟨shorter, rest⟩, inner, same⟩ := Option.map_eq_some_iff.1 found
      simp only [Prod.mk.injEq] at same
      obtain ⟨rfl, rfl⟩ := same
      have := ih inner
      simp only [List.length_cons]
      omega

/-- The pieces between the marks of a text; one more than there are marks. -/
def pieces (mark : Char) : List Char → List (List Char)
  | [] => [[]]
  | c :: rest =>
    if c = mark then [] :: pieces mark rest
    else match pieces mark rest with
      | [] => [[c]]
      | first :: others => (c :: first) :: others

end RouteDoc.Text
