import Mathlib.Data.List.Forall2
import RouteDoc.Output.UsePath

/-! Names of generated functions. Whatever a document is called, the name is an identifier in lower case, and its ending
keeps it apart from all keywords. Which labels have a name in common is told character by character. -/

namespace RouteDoc.Registration

/-! Letters and digits. -/

theorem isLower_toLower {c : Char} (upper : c.isUpper = true) : c.toLower.isLower = true := by
  unfold Char.isUpper at upper
  simp only [decide_eq_true_eq, ge_iff_le] at upper
  unfold Char.toLower Char.isLower
  rw [dif_pos upper]
  simp only [Bool.and_eq_true, decide_eq_true_eq, ge_iff_le]
  obtain ⟨first, last⟩ := upper
  simp only [UInt32.le_iff_toNat_le, UInt32.toNat_add] at first last ⊢
  simp at first last ⊢
  omega

theorem toLower_of_not_isUpper {c : Char} (other : ¬ c.isUpper = true) : c.toLower = c := by
  unfold Char.isUpper at other
  unfold Char.toLower
  rw [dif_neg]
  simpa using other

theorem isDigit_of_isAlpha {c : Char} (letter : c.isAlpha = true) : c.isDigit = false := by
  unfold Char.isAlpha Char.isUpper Char.isLower at letter
  unfold Char.isDigit
  simp only [Bool.or_eq_true, Bool.and_eq_true, decide_eq_true_eq, Bool.and_eq_false_iff, decide_eq_false_iff_not,
    ge_iff_le, UInt32.le_iff_toNat_le] at letter ⊢
  simp at letter ⊢
  omega

theorem isAlpha_of_isUpper {c : Char} (upper : c.isUpper = true) : c.isAlpha = true := by
  unfold Char.isAlpha
  rw [upper, Bool.true_or]

theorem isAlpha_of_isLower {c : Char} (lower : c.isLower = true) : c.isAlpha = true := by
  unfold Char.isAlpha
  rw [lower, Bool.or_true]

theorem isAlphanum_of_isAlpha {c : Char} (letter : c.isAlpha = true) : c.isAlphanum = true := by
  unfold Char.isAlphanum
  rw [letter, Bool.true_or]

theorem isDigit_toLower (c : Char) : c.toLower.isDigit = c.isDigit := by
  by_cases upper : c.isUpper = true
  · have after := isAlpha_of_isLower (isLower_toLower upper)
    rw [isDigit_of_isAlpha (isAlpha_of_isUpper upper), isDigit_of_isAlpha after]
  · rw [toLower_of_not_isUpper upper]

theorem isAlphanum_toLower (c : Char) : c.toLower.isAlphanum = c.isAlphanum := by
  by_cases upper : c.isUpper = true
  · have after := isAlpha_of_isLower (isLower_toLower upper)
    rw [isAlphanum_of_isAlpha (isAlpha_of_isUpper upper), isAlphanum_of_isAlpha after]
  · rw [toLower_of_not_isUpper upper]

/-! Characters of names. -/

/-- The characters that the names of generated functions are made of. -/
def isNameChar (c : Char) : Bool := c.isLower || c.isDigit || c == '_'

theorem isNameChar_iff {c : Char} : isNameChar c = true ↔ c.isLower = true ∨ c.isDigit = true ∨ c = '_' := by
  simp [isNameChar, or_assoc]

theorem isNameChar_nameChar (c : Char) : isNameChar (nameChar c) = true := by
  unfold nameChar
  split
  next named =>
    rw [isNameChar_iff]
    by_cases upper : c.isUpper = true
    · exact .inl (isLower_toLower upper)
    · rw [toLower_of_not_isUpper upper]
      unfold Char.isAlphanum Char.isAlpha at named
      rw [Bool.or_eq_true, Bool.or_eq_true, or_iff_right upper] at named
      exact named.imp_right .inl
  next => rfl

theorem isDigit_nameChar (c : Char) : (nameChar c).isDigit = c.isDigit := by
  unfold nameChar
  split
  next => exact isDigit_toLower c
  next foreign =>
    have other : c.isDigit = false := by
      unfold Char.isAlphanum at foreign
      rw [Bool.or_eq_true, not_or] at foreign
      exact Bool.eq_false_iff.mpr foreign.2
    rw [other]
    rfl

theorem isAlphanum_nameChar (c : Char) : (nameChar c).isAlphanum = c.isAlphanum := by
  unfold nameChar
  split
  next => exact isAlphanum_toLower c
  next foreign =>
    rw [Bool.eq_false_iff.mpr foreign]
    rfl

/-- Characters that a name does not tell apart: the two cases of a letter, and any two that are no letters or digits of
ASCII. -/
def Alike (c d : Char) : Prop := c.toLower = d.toLower ∨ c.isAlphanum = false ∧ d.isAlphanum = false

theorem alike_self (cs : List Char) : List.Forall₂ Alike cs cs := List.forall₂_same.mpr fun _ _ => .inl rfl

theorem nameChar_eq_iff {c d : Char} : nameChar c = nameChar d ↔ Alike c d := by
  constructor
  · intro same
    have kind : c.isAlphanum = d.isAlphanum := by rw [← isAlphanum_nameChar, same, isAlphanum_nameChar]
    cases named : d.isAlphanum with
    | true =>
      left
      rwa [nameChar, nameChar, if_pos named, if_pos (kind.trans named)] at same
    | false => exact .inr ⟨kind.trans named, named⟩
  · rintro (same | ⟨first, second⟩)
    · have kind : c.isAlphanum = d.isAlphanum := by rw [← isAlphanum_toLower, same, isAlphanum_toLower]
      rw [nameChar, nameChar, kind, same]
    · simp [nameChar, first, second]

theorem Alike.isDigit_eq {c d : Char} (alike : Alike c d) : c.isDigit = d.isDigit := by
  rw [← isDigit_nameChar, nameChar_eq_iff.mpr alike, isDigit_nameChar]

/-! Names. The base of a name starts with no digit before its characters are mapped, and mapping them keeps digits. -/

/-- What a function is named after: the label, or `codl` in place of an empty one. An underscore comes before a
digit. -/
def nameBase (label : String) : List Char :=
  match label.toList with
  | [] => "codl".toList
  | c :: rest => if c.isDigit then '_' :: c :: rest else c :: rest

theorem toList_functionName (label : String) :
    (functionName label).toList = (nameBase label).map nameChar ++ "_routes".toList := by
  unfold functionName nameBase
  cases label.toList with
  | nil => rfl
  | cons c rest =>
    simp only [List.map_cons, isDigit_nameChar]
    split <;> simp [nameChar]

theorem isNameChar_functionName {label : String} {c : Char} (member : c ∈ (functionName label).toList) :
    isNameChar c = true := by
  have named : ∀ c ∈ "_routes".toList, isNameChar c = true := List.all_eq_true.mp (by decide)
  rw [toList_functionName, List.mem_append] at member
  obtain mapped | ending := member
  · obtain ⟨d, _, rfl⟩ := List.mem_map.mp mapped
    exact isNameChar_nameChar d
  · exact named c ending

theorem exists_cons_nameBase (label : String) : ∃ c rest, nameBase label = c :: rest ∧ c.isDigit = false := by
  unfold nameBase
  split
  next => exact ⟨'c', _, rfl, rfl⟩
  next c rest _ =>
    split
    next => exact ⟨'_', _, rfl, rfl⟩
    next letter => exact ⟨c, rest, rfl, Bool.eq_false_iff.mpr letter⟩

theorem functionName_eq_iff {label other : String} :
    functionName label = functionName other ↔ List.Forall₂ Alike (nameBase label) (nameBase other) := by
  rw [← String.toList_inj, toList_functionName, toList_functionName, List.append_left_inj, ← List.forall₂_eq_eq_eq,
    List.forall₂_map_left_iff, List.forall₂_map_right_iff]
  simp only [nameChar_eq_iff]

theorem forall₂_nameBase {label other : String} (alike : List.Forall₂ Alike label.toList other.toList) :
    List.Forall₂ Alike (nameBase label) (nameBase other) := by
  unfold nameBase
  revert alike
  generalize label.toList = first
  generalize other.toList = second
  intro alike
  cases alike with
  | nil => exact alike_self _
  | cons same rest =>
    dsimp only
    rw [same.isDigit_eq]
    split
    · exact .cons (.inl rfl) (.cons same rest)
    · exact .cons same rest

theorem functionName_congr {label other : String} (alike : List.Forall₂ Alike label.toList other.toList) :
    functionName label = functionName other :=
  functionName_eq_iff.mpr (forall₂_nameBase alike)

/-! Identifiers. -/

/-- The keywords that may stand in a path, and those of a later edition or of some places only. -/
def furtherKeywords : List String := ["crate", "self", "super", "gen", "macro_rules", "raw", "safe", "union"]

/-- The name of a function for routes: an identifier that is no keyword, in lower case, made up of some stem and the
ending. -/
structure RoutesName (name : String) : Prop where
  identifier : Identifier (keywords ++ furtherKeywords) name.toList
  starts : ∃ c rest, name.toList = c :: rest ∧ (c.isLower = true ∨ c = '_')
  lower : ∀ c ∈ name.toList, c.isLower = true ∨ c.isDigit = true ∨ c = '_'
  ends : ∃ stem, stem ≠ "" ∧ name = stem ++ "_routes"

theorem keyword_apart : ∀ word ∈ keywords ++ furtherKeywords, ¬ "_routes".toList <:+ word.toList := by decide

theorem routesName_functionName (label : String) : RoutesName (functionName label) := by
  obtain ⟨c, rest, based, letter⟩ := exists_cons_nameBase label
  have spelled : (functionName label).toList = nameChar c :: (rest.map nameChar ++ "_routes".toList) := by
    rw [toList_functionName, based, List.map_cons, List.cons_append]
  have lower : ∀ d ∈ (functionName label).toList, d.isLower = true ∨ d.isDigit = true ∨ d = '_' := by
    intro d member
    exact isNameChar_iff.mp (isNameChar_functionName member)
  have first : (nameChar c).isLower = true ∨ nameChar c = '_' := by
    have named := lower (nameChar c) (by rw [spelled]; exact List.mem_cons_self)
    rwa [isDigit_nameChar, letter, or_iff_right Bool.false_ne_true] at named
  refine ⟨⟨⟨nameChar c, _, spelled, ?_, ?_⟩, ?_, ?_⟩, ⟨nameChar c, _, spelled, first⟩, lower, ?_⟩
  · rw [startsIdentifier, Bool.or_eq_true, beq_iff_eq]
    exact first.imp_left isAlpha_of_isLower
  · intro d member
    have named := lower d (by rw [spelled]; exact List.mem_cons_of_mem _ member)
    rw [continuesIdentifier, Bool.or_eq_true, beq_iff_eq]
    obtain small | digit | underscore := named
    · exact .inl (isAlphanum_of_isAlpha (isAlpha_of_isLower small))
    · left
      unfold Char.isAlphanum
      rw [digit, Bool.or_true]
    · exact .inr underscore
  · simp [spelled]
  · intro keyword
    -- No keyword has the ending, whatever the stem is.
    rw [String.ofList_toList] at keyword
    exact keyword_apart _ keyword ⟨_, (toList_functionName label).symm⟩
  · refine ⟨String.ofList ((nameBase label).map nameChar), by simp [based], ?_⟩
    exact String.toList_inj.mp (by simp [toList_functionName])

/-- The name of the function for any label is an identifier in lower case with the ending for routes. It does not change
with the case of letters, or when a character that is no letter or digit of ASCII is replaced by another one. Two labels
have one name if and only if what they stand for is alike character by character. -/
theorem functionName_identifies (label : String) :
    RoutesName (functionName label) ∧
    (∀ other, other.toList.map Char.toLower = label.toList.map Char.toLower →
      functionName other = functionName label) ∧
    (∀ before c after d, label.toList = before ++ c :: after → c.isAlphanum = false → d.isAlphanum = false →
      functionName (String.ofList (before ++ d :: after)) = functionName label) ∧
    ∀ other, functionName other = functionName label ↔ List.Forall₂ Alike (nameBase other) (nameBase label) := by
  refine ⟨routesName_functionName label, ?_, ?_, fun other => functionName_eq_iff⟩
  · intro other cased
    rw [← List.forall₂_eq_eq_eq, List.forall₂_map_left_iff, List.forall₂_map_right_iff] at cased
    exact functionName_congr (cased.imp fun _ _ => .inl)
  · intro before c after d split foreign replaced
    apply functionName_congr
    rw [split, String.toList_ofList]
    exact List.rel_append (alike_self before) (.cons (.inr ⟨replaced, foreign⟩) (alike_self after))

example : functionName "7.Straße" = "_7_stra_e_routes" := by decide

end RouteDoc.Registration
