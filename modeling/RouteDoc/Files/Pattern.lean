import RouteDoc.Text.Split

/-!
Patterns for file names. `?` stands for any character, `*` for any run of characters, and square
brackets for one character of a set, or with `!` for one that is not in it. Two stars alone between
slashes stand for any depth of folders.
-/

namespace RouteDoc

/-- A piece of a pattern. The ranges of a set include their ends. -/
inductive Wildcard
  | char (c : Char)
  | any
  | sequence
  | folders
  | oneOf (ranges : List (Char × Char))
  | noneOf (ranges : List (Char × Char))
  deriving DecidableEq, Repr

/-- What is wrong with a pattern. -/
inductive PatternFault
  | stars
  | folders
  | range
  deriving DecidableEq, Repr

/-- A fault and the number of the character it was noticed at. -/
structure PatternError where
  fault : PatternFault
  index : Nat
  deriving DecidableEq, Repr

/-- The wording of a pattern fault. -/
def PatternFault.message : PatternFault → String
  | stars => "wildcards are either regular `*` or recursive `**`"
  | folders => "recursive wildcards must form a single path component"
  | range => "invalid range pattern"

/-- The wording of a pattern error. -/
def PatternError.message (error : PatternError) : String :=
  "Pattern syntax error near position " ++ toString error.index ++ ": " ++ error.fault.message

namespace Pattern

open Text

/-- A text in which no character is special. -/
def escape (text : String) : String :=
  String.ofList (text.toList.flatMap fun c =>
    if c = '?' ∨ c = '*' ∨ c = '[' ∨ c = ']' then ['[', c, ']'] else [c])

/-- The ranges of a set: `a-z` is one, any other character stands for itself. -/
def ranges : List Char → List (Char × Char)
  | first :: '-' :: last :: rest => (first, last) :: ranges rest
  | c :: rest => (c, c) :: ranges rest
  | [] => []

/-- Reads a set after its opening bracket. A set is not empty, so its first character may be a
closing bracket. -/
def readSet? : List Char → Option (Wildcard × List Char)
  | [] => none
  | '!' :: rest =>
    match rest with
    | [] => none
    | c :: others => (cutAt? ']' others).map fun (body, after) => (.noneOf (ranges (c :: body)), after)
  | c :: others => (cutAt? ']' others).map fun (body, after) => (.oneOf (ranges (c :: body)), after)

theorem length_readSet? {cs rest : List Char} {set : Wildcard}
    (found : readSet? cs = some (set, rest)) : rest.length < cs.length := by
  unfold readSet? at found
  split at found
  · simp at found
  · split at found
    · simp at found
    · obtain ⟨⟨body, after⟩, inner, same⟩ := Option.map_eq_some_iff.1 found
      simp only [Prod.mk.injEq] at same
      have := length_cutAt? inner
      simp only [List.length_cons, ← same.2]
      omega
  · obtain ⟨⟨body, after⟩, inner, same⟩ := Option.map_eq_some_iff.1 found
    simp only [Prod.mk.injEq] at same
    have := length_cutAt? inner
    simp only [List.length_cons, ← same.2]
    omega

/-- Reads the stars that stand at `index` after `previous`: how many of them there are, and what
follows them. The first star is not in the list. -/
def readStars (index : Nat) (previous : Option Char) (cs : List Char) :
    Except PatternError (Wildcard × Nat × List Char) :=
  let count := 1 + (cs.takeWhile (· = '*')).length
  let after := cs.dropWhile (· = '*')
  if count = 1 then .ok (.sequence, 1, after)
  else if 2 < count then .error ⟨.stars, index + 2⟩
  else if previous ≠ none ∧ previous ≠ some '/' then .error ⟨.folders, index - 1⟩
  else match after with
    | [] => .ok (.folders, 2, [])
    | '/' :: rest => .ok (.folders, 3, rest)
    | _ => .error ⟨.folders, index + 2⟩

theorem length_readStars {index taken : Nat} {previous : Option Char} {cs rest : List Char}
    {wildcard : Wildcard} (found : readStars index previous cs = .ok (wildcard, taken, rest)) :
    rest.length ≤ cs.length := by
  have shorter : (cs.dropWhile (· = '*')).length ≤ cs.length :=
    (List.dropWhile_sublist _).length_le
  simp only [readStars] at found
  split at found
  · simp only [Except.ok.injEq, Prod.mk.injEq] at found
    exact found.2.2 ▸ shorter
  split at found
  · simp at found
  split at found
  · simp at found
  split at found
  · simp only [Except.ok.injEq, Prod.mk.injEq] at found
    simp [← found.2.2]
  · rename_i same
    simp only [Except.ok.injEq, Prod.mk.injEq] at found
    rw [same, List.length_cons, found.2.2] at shorter
    omega
  · simp at found

/-- Reads a pattern whose first character is number `index`, after the character `previous`. -/
def compileFrom (index : Nat) (previous : Option Char) :
    List Char → Except PatternError (List Wildcard)
  | [] => .ok []
  | c :: rest =>
    if c = '?' then (compileFrom (index + 1) (some c) rest).map (.any :: ·)
    else if c = '*' then
      match _stars : readStars index previous rest with
      | .error error => .error error
      | .ok (wildcard, taken, after) =>
        let last := if taken = 3 then some '/' else some '*'
        (compileFrom (index + taken) last after).map (wildcard :: ·)
    else if c = '[' then
      match _set : readSet? rest with
      | none => .error ⟨.range, index⟩
      | some (wildcard, after) =>
        let taken := 1 + (rest.length - after.length)
        (compileFrom (index + taken) (some ']') after).map (wildcard :: ·)
    else (compileFrom (index + 1) (some c) rest).map (.char c :: ·)
termination_by cs => cs.length
decreasing_by
  · simp
  · have := length_readStars _stars
    simp only [List.length_cons]
    omega
  · have := length_readSet? _set
    simp only [List.length_cons]
    omega
  · simp

/-- The pieces of a pattern, or the first fault in it. -/
def compile (text : String) : Except PatternError (List Wildcard) :=
  compileFrom 0 none text.toList

/-- Whether a character is in one of the ranges of a set. -/
def isWithin (c : Char) (ranges : List (Char × Char)) : Bool :=
  ranges.any fun range => range.1 ≤ c && c ≤ range.2

/-- Whether a piece of a pattern can stand for a character. A leading dot is not special. -/
def accepts (c : Char) : Wildcard → Bool
  | .char expected => c == expected
  | .any | .sequence | .folders => true
  | .oneOf ranges => isWithin c ranges
  | .noneOf ranges => !isWithin c ranges

/-- Whether a piece of a pattern stands for any number of characters. -/
def isRun : Wildcard → Bool
  | .sequence | .folders => true
  | .char _ | .any | .oneOf _ | .noneOf _ => false

/-- For each place in a list, whether there is a yes from there on. -/
def fromHereOn : List Bool → List Bool
  | [] => []
  | here :: rest =>
    let later := fromHereOn rest
    (here || later.headD false) :: later

/-- For each end of a text, the longest first and the empty one last, whether a pattern matches it
as a whole. Every piece goes over the text once. -/
def endsCovered (cs : List Char) : List Wildcard → List Bool
  | [] => cs.map (fun _ => false) ++ [true]
  | piece :: rest =>
    if isRun piece then fromHereOn (endsCovered cs rest)
    else List.zipWith (fun c later => accepts c piece && later) cs (endsCovered cs rest).tail ++ [false]

/-- Whether a pattern matches characters as a whole. -/
def covers (pattern : List Wildcard) (cs : List Char) : Bool :=
  (endsCovered cs pattern).headD false

theorem length_fromHereOn (answers : List Bool) :
    (fromHereOn answers).length = answers.length := by
  induction answers with
  | nil => rfl
  | cons here rest ih => simp [fromHereOn, ih]

theorem length_endsCovered (cs : List Char) (pattern : List Wildcard) :
    (endsCovered cs pattern).length = cs.length + 1 := by
  induction pattern with
  | nil => simp [endsCovered]
  | cons piece rest ih =>
    unfold endsCovered
    split
    · rw [length_fromHereOn, ih]
    · simp [ih]

theorem tail_fromHereOn (answers : List Bool) :
    (fromHereOn answers).tail = fromHereOn answers.tail := by
  cases answers <;> rfl

/-- What is said about the ends of a text does not depend on the characters in front of them. -/
theorem tail_endsCovered (c : Char) (cs : List Char) (pattern : List Wildcard) :
    (endsCovered (c :: cs) pattern).tail = endsCovered cs pattern := by
  induction pattern with
  | nil => simp [endsCovered]
  | cons piece rest ih =>
    unfold endsCovered
    split
    · rw [tail_fromHereOn, ih]
    · rw [ih]
      have long := length_endsCovered cs rest
      cases same : endsCovered cs rest with
      | nil => simp [same] at long
      | cons first others => simp [List.zipWith_cons_cons]

theorem covers_nil (cs : List Char) : covers [] cs = cs.isEmpty := by
  cases cs <;> simp [covers, endsCovered]

theorem covers_single {piece : Wildcard} (single : isRun piece = false) (rest : List Wildcard)
    (c : Char) (cs : List Char) :
    covers (piece :: rest) (c :: cs) = (accepts c piece && covers rest cs) := by
  have long := length_endsCovered cs rest
  simp only [covers, endsCovered, single, tail_endsCovered]
  cases same : endsCovered cs rest with
  | nil => simp [same] at long
  | cons first others => simp

theorem covers_single_nil {piece : Wildcard} (single : isRun piece = false)
    (rest : List Wildcard) : covers (piece :: rest) [] = false := by
  simp [covers, endsCovered, single]

theorem covers_run {piece : Wildcard} (run : isRun piece = true) (rest : List Wildcard)
    (c : Char) (cs : List Char) :
    covers (piece :: rest) (c :: cs) = (covers rest (c :: cs) || covers (piece :: rest) cs) := by
  have long := length_endsCovered (c :: cs) rest
  have later := tail_endsCovered c cs rest
  simp only [covers, endsCovered, run, if_true]
  cases same : endsCovered (c :: cs) rest with
  | nil => simp [same] at long
  | cons first others =>
    rw [same, List.tail_cons] at later
    simp [fromHereOn, later]

theorem covers_run_nil {piece : Wildcard} (run : isRun piece = true) (rest : List Wildcard) :
    covers (piece :: rest) [] = covers rest [] := by
  have long := length_endsCovered [] rest
  simp only [covers, endsCovered, run, if_true]
  cases same : endsCovered [] rest with
  | nil => simp [same] at long
  | cons first others =>
    have : others = [] := List.eq_nil_of_length_eq_zero (by simpa [same] using long)
    simp [fromHereOn, this]

/-- The text of a pattern in which nothing is special. -/
def plain? : List Wildcard → Option String
  | [] => some ""
  | .char c :: rest => (plain? rest).map (String.singleton c ++ ·)
  | _ :: _ => none

end Pattern

end RouteDoc
