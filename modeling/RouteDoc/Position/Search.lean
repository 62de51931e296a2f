import RouteDoc.Position

/-!
Looking up the line of a byte offset by halving. Lines start at increasing offsets, so one comparison drops half of
those that are left. A line map in which a step of the look-up has no answer gives no place.
-/

namespace RouteDoc

/-- The order of places: by line, and by column on one line. -/
def Position.Earlier (place other : Position) : Prop :=
  place.line < other.line ∨ place.line = other.line ∧ place.column < other.column

namespace LineMap

/-- The index at which an offset stands among line starts, or else the index at which it would have to be put in to
keep them in order. The starts before `low` are known to be smaller and those from `high` on to be greater. -/
def searchBetween (starts : List Nat) (offset low high : Nat) (within : high ≤ starts.length) : Except Nat Nat :=
  if _open : low < high then
    let middle := low + (high - low) / 2
    have inside : middle < high := by omega
    let start := starts[middle]
    if start = offset then .ok middle
    else if start < offset then searchBetween starts offset (middle + 1) high within
    else searchBetween starts offset low middle (Nat.le_trans (Nat.le_of_lt inside) within)
  else .error low
termination_by high - low

/-- The search among all line starts. -/
def search (lineMap : LineMap) (offset : Nat) : Except Nat Nat :=
  searchBetween lineMap.starts offset 0 lineMap.starts.length (Nat.le_refl _)

/-- The line of an offset: the one that starts there, or else the one before the first that starts behind it. There is
none before the first line. -/
def line? (lineMap : LineMap) (offset : Nat) : Option Nat :=
  match lineMap.search offset with
  | .ok index => some index
  | .error 0 => none
  | .error (index + 1) => some index

/-- The place of a byte offset as the search finds it. There is none if the line is missing or starts behind the
offset. -/
def locate? (lineMap : LineMap) (offset : Nat) : Option Position := do
  let line ← lineMap.line? offset
  let start ← lineMap.starts[line]?
  if start ≤ offset then some ⟨line, offset - start⟩ else none

end LineMap

end RouteDoc
