/-!
Lists in which an entry is found by its key. A new entry takes the place of any other with the same
key, so that what was put last is found (`get?_set`), and what was taken out is not (`get?_erase`).
-/

namespace RouteDoc.Keyed

section Entries

variable {κ α : Type} [BEq κ] [LawfulBEq κ] [DecidableEq κ] (key : α → κ)

/-- Without the entries of one key, the entry of that key is not found, and those of all others
are found as before. -/
theorem find?_filter_key (entries : List α) (taken wanted : κ) :
    (entries.filter (key · != taken)).find? (key · == wanted) =
      if wanted = taken then none else entries.find? (key · == wanted) := by
  induction entries with
  | nil => simp
  | cons entry rest ih =>
    by_cases same : key entry = taken
    · rw [List.filter_cons_of_neg (by simp [same]), ih]
      split
      · rfl
      · rename_i other
        rw [List.find?_cons_of_neg (by simpa [same] using Ne.symm other)]
    · rw [List.filter_cons_of_pos (by simpa using same)]
      by_cases found : key entry = wanted
      · have : wanted ≠ taken := found ▸ same
        simp [found, this]
      · rw [List.find?_cons_of_neg (by simpa using found), ih,
          List.find?_cons_of_neg (by simpa using found)]

/-- An entry that takes the place of all others with its key is found by it, and those of all other
keys are found as before. -/
theorem find?_replace_key (entries : List α) (entry : α) (wanted : κ) :
    (entry :: entries.filter (key · != key entry)).find? (key · == wanted) =
      if wanted = key entry then some entry else entries.find? (key · == wanted) := by
  by_cases same : key entry = wanted
  · simp [same]
  · rw [List.find?_cons_of_neg (by simpa using same), find?_filter_key]
    simp [Ne.symm same]

end Entries

variable {κ α : Type} [BEq κ]

/-- What is found by a key. -/
def get? (entries : List (κ × α)) (key : κ) : Option α :=
  (entries.find? (·.1 == key)).map Prod.snd

/-- Takes out what is found by a key. -/
def erase (entries : List (κ × α)) (key : κ) : List (κ × α) := entries.filter (·.1 != key)

/-- Puts something in place of what is found by a key. -/
def set (entries : List (κ × α)) (key : κ) (content : α) : List (κ × α) :=
  (key, content) :: erase entries key

variable [LawfulBEq κ] [DecidableEq κ]

theorem get?_erase (entries : List (κ × α)) (taken wanted : κ) :
    get? (erase entries taken) wanted = if wanted = taken then none else get? entries wanted := by
  simp only [get?, erase, find?_filter_key Prod.fst]
  split <;> rfl

theorem get?_set (entries : List (κ × α)) (put wanted : κ) (content : α) :
    get? (set entries put content) wanted =
      if wanted = put then some content else get? entries wanted := by
  simp only [get?, set, erase]
  rw [find?_replace_key Prod.fst entries (put, content) wanted]
  split <;> rfl

end RouteDoc.Keyed
