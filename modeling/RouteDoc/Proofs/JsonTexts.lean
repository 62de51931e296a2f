import RouteDoc.Output.JsonGrammar
import RouteDoc.Proofs.QuotedTexts

/-! The layout of a JSON value is a text of the grammar, and a text of the grammar is the text of one value:
what stands first in it decides how it goes on. -/

namespace RouteDoc.Json
open Text

theorem induction {motive : Json → Prop} (null : motive .null) (text : ∀ content, motive (.text content))
    (list : ∀ items, (∀ item ∈ items, motive item) → motive (.list items))
    (object : ∀ fields, (∀ field ∈ fields, motive field.2) → motive (.object fields)) : ∀ json, motive json
  | .null => null
  | .text content => text content
  | .list items => list items fun item _ => induction null text list object item
  | .object fields => object fields fun field _ => induction null text list object field.2
termination_by json => sizeOf json
decreasing_by
  all_goals
    rename_i member
    have smaller := List.sizeOf_lt_of_mem member
    simp only [Json.list.sizeOf_spec, Json.object.sizeOf_spec]
  · omega
  · obtain ⟨key, value⟩ := field
    simp only [Prod.mk.sizeOf_spec] at smaller ⊢
    omega

/-! The layout is in the grammar. -/

theorem Spaces.all {gap : List Char} (blank : ∀ c ∈ gap, isSpace c = true) (rest : List Char) :
    Spaces (gap ++ rest) rest := by
  induction gap with
  | nil => exact .none
  | cons c gap ih =>
    obtain ⟨first, others⟩ := List.forall_mem_cons.mp blank
    exact .more first (ih others)

theorem spaces_indent (depth : Nat) (rest : List Char) : Spaces ('\n' :: ((indent depth).toList ++ rest)) rest := by
  apply Spaces.more (by decide)
  apply Spaces.all
  intro c member
  rw [indent, String.toList_ofList] at member
  rw [List.eq_of_mem_replicate member]
  decide

theorem character_escapeChar (c : Char) (rest : List Char) : Character c (escapeChar c ++ rest) rest := by
  by_cases quote : c = '\x22'
  · subst quote; exact .short rfl
  by_cases backslash : c = '\\'
  · subst backslash; exact .short rfl
  by_cases backspace : c = '\x08'
  · subst backspace; exact .short rfl
  by_cases tab : c = '\t'
  · subst tab; exact .short rfl
  by_cases feed : c = '\n'
  · subst feed; exact .short rfl
  by_cases formFeed : c = '\x0c'
  · subst formFeed; exact .short rfl
  by_cases carriage : c = '\r'
  · subst carriage; exact .short rfl
  rw [escapeChar, if_neg quote, if_neg backslash, if_neg backspace, if_neg tab, if_neg feed, if_neg formFeed,
    if_neg carriage]
  split
  next control =>
    apply Character.codePoint
    have high := hexValue?_digitChar (c.toNat / 16) (by omega)
    have low := hexValue?_digitChar (c.toNat % 16) (by omega)
    have zero : hexValue? '0' = some 0 := rfl
    have valid : c.toNat.isValidChar := c.valid
    simp [readCodePoint, readHex, zero, high, low, Nat.div_add_mod, charOf?, valid]
  next printed => exact .plain quote backslash (by omega)

theorem quoted_quoted (content : String) (rest : List Char) :
    Quoted content ((quoted content).toList ++ rest) rest := by
  have spelled (text : List Char) : Content text (text.flatMap escapeChar ++ '\x22' :: rest) rest := by
    induction text with
    | nil => exact .done
    | cons c text ih =>
      rw [List.flatMap_cons, List.append_assoc]
      exact .more (character_escapeChar c _) ih
  have whole := Quoted.mk (spelled content.toList)
  simpa [quoted] using whole

section
variable {α : Type} {part : α → List Char → List Char → Prop} {last : Char}

/-- Parts that are laid out on lines of their own are parts of the grammar, if each of them is. -/
theorem Parts.of_separated {values : List α} {spelled : α → String} (depth : Nat) (filled : values ≠ [])
    (each : ∀ value ∈ values, ∀ rest, part value ((spelled value).toList ++ rest) rest) {stop rest : List Char}
    (ends : Spaces stop (last :: rest)) :
    Parts part last values
      ('\n' :: ((separated ",\n" (values.map fun value => indent depth ++ spelled value)).toList ++ stop)) rest := by
  induction values with
  | nil => exact absurd rfl filled
  | cons value values ih =>
    obtain ⟨first, others⟩ := List.forall_mem_cons.mp each
    cases values with
    | nil =>
      have whole := Parts.one (spaces_indent depth _) (first stop) ends
      simpa [separated] using whole
    | cons next values =>
      have whole := Parts.more (spaces_indent depth _) (first _) .none (ih (List.cons_ne_nil _ _) others)
      simpa [separated] using whole

theorem Enclosed.of_enclosed {values : List α} {spelled : α → String} {opening closing : String} {first : Char}
    (opens : opening.toList = [first]) (closes : closing.toList = [last]) (depth : Nat)
    (each : ∀ value ∈ values, ∀ rest, part value ((spelled value).toList ++ rest) rest) (rest : List Char) :
    Enclosed part first last values ((enclosed opening closing depth (values.map spelled)).toList ++ rest) rest := by
  cases values with
  | nil =>
    have whole : Enclosed part first last [] (first :: last :: rest) rest := .empty .none
    simpa [enclosed, opens, closes] using whole
  | cons value values =>
    have ends := spaces_indent depth (last :: rest)
    have parts := Parts.of_separated (depth + 1) (List.cons_ne_nil value values) each ends
    have whole := @Enclosed.filled _ _ first _ _ _ _ parts
    simpa [enclosed, opens, closes, Function.comp_def] using whole

end

theorem prettyItems_eq_map (depth : Nat) (items : List Json) : prettyItems depth items = items.map (pretty depth) := by
  induction items with
  | nil => rfl
  | cons item items ih => rw [prettyItems, ih, List.map_cons]

theorem prettyFields_eq_map (depth : Nat) (fields : List (String × Json)) :
    prettyFields depth fields = fields.map fun field => quoted field.1 ++ ": " ++ pretty depth field.2 := by
  induction fields with
  | nil => rfl
  | cons field fields ih => rw [prettyFields, ih, List.map_cons]

theorem written_pretty (json : Json) (depth : Nat) (rest : List Char) :
    Written json ((pretty depth json).toList ++ rest) rest := by
  induction json using Json.induction generalizing depth rest with
  | null =>
    rw [pretty]
    exact .null
  | text content =>
    rw [pretty]
    exact .text (quoted_quoted content rest)
  | list items ih =>
    rw [pretty, prettyItems_eq_map]
    apply Written.list
    apply Enclosed.of_enclosed rfl rfl
    intro item member rest
    exact ih item member (depth + 1) rest
  | object fields ih =>
    rw [pretty, prettyFields_eq_map]
    apply Written.object
    apply Enclosed.of_enclosed rfl rfl
    intro field member rest
    have value := ih field member (depth + 1) rest
    have whole := Field.mk (quoted_quoted field.1 _) .none (.more (by decide : isSpace ' ' = true) .none) value
    simpa using whole

/-! A text of the grammar is the text of one value. -/

/-- Nothing else can be read from the characters that a value is read from. -/
def Decided {α : Type} (part : α → List Char → List Char → Prop) (value : α) : Prop :=
  ∀ other cs rest left, part value cs rest → part other cs left → value = other ∧ rest = left

/-- The characters start with something that is neither a space nor the given mark. -/
def Opens (mark : Char) (cs : List Char) : Prop := ∃ c more, cs = c :: more ∧ isSpace c = false ∧ c ≠ mark

theorem Spaces.unique {cs rest left : List Char} {mark other : Char} (first : Spaces cs rest)
    (second : Spaces cs left) (stops : Opens mark rest) (ends : Opens other left) : rest = left := by
  obtain ⟨c, more, rfl, solid, _⟩ := stops
  obtain ⟨d, others, rfl, firm, _⟩ := ends
  generalize same : c :: more = rest at first
  generalize alike : d :: others = left at second
  induction first with
  | none =>
    subst same
    cases second with
    | none => rfl
    | more blank _ => rw [solid] at blank; cases blank
  | more blank _ ih =>
    cases second with
    | none => cases alike; rw [firm] at blank; cases blank
    | more _ second => exact ih same second

/-- A surrogate is not a code point of its own. -/
theorem readCodePoint_surrogate {cs rest : List Char} {high : Nat} (read : readHex 4 0 cs = some (high, rest))
    (surrogate : 0xd800 ≤ high ∧ high < 0xdc00) : readCodePoint 4 cs = none := by
  have invalid : ¬ high.isValidChar := by
    rw [Nat.isValidChar]
    omega
  simp [readCodePoint, read, charOf?, invalid]

theorem Character.unique (c : Char) : Decided Character c := by
  intro other cs rest left first second
  cases first with
  | plain _ solid _ =>
    cases second with
    | plain => exact ⟨rfl, rfl⟩
    | short | codePoint | surrogates => exact absurd rfl solid
  | short means =>
    cases second with
    | plain _ solid _ => exact absurd rfl solid
    | short same => exact ⟨Option.some.inj (means.symm.trans same), rfl⟩
    | codePoint | surrogates => cases means
  | codePoint found =>
    cases second with
    | plain _ solid _ => exact absurd rfl solid
    | short means => cases means
    | codePoint same =>
      cases found.symm.trans same
      exact ⟨rfl, rfl⟩
    | surrogates read surrogate => cases found.symm.trans (readCodePoint_surrogate read surrogate)
  | surrogates read surrogate more _ pair =>
    cases second with
    | plain _ solid _ => exact absurd rfl solid
    | short means => cases means
    | codePoint found => cases found.symm.trans (readCodePoint_surrogate read surrogate)
    | surrogates same _ others _ alike =>
      cases read.symm.trans same
      cases more.symm.trans others
      exact ⟨Char.toNat_inj.mp (pair.trans alike.symm), rfl⟩

theorem Content.unique (text : List Char) : Decided Content text := by
  intro other cs rest left first second
  induction first generalizing other left with
  | done =>
    cases second with
    | done => exact ⟨rfl, rfl⟩
    | more head _ =>
      cases head with
      | plain unquoted _ _ => exact absurd rfl unquoted
  | more head _ ih =>
    cases second with
    | done =>
      cases head with
      | plain unquoted _ _ => exact absurd rfl unquoted
    | more same others =>
      obtain ⟨rfl, rfl⟩ := Character.unique _ _ _ _ _ head same
      obtain ⟨rfl, rfl⟩ := ih _ _ others
      exact ⟨rfl, rfl⟩

theorem Quoted.unique (content : String) : Decided Quoted content := by
  intro other cs rest left first second
  cases first with
  | mk text =>
    cases second with
    | mk same =>
      obtain ⟨contents, ends⟩ := Content.unique _ _ _ _ _ text same
      exact ⟨String.toList_inj.mp contents, ends⟩

section
variable {α : Type} {part : α → List Char → List Char → Prop} {mark : Char} {values : List α}

theorem Parts.opens (opens : ∀ value cs rest, part value cs rest → Opens mark cs) {cs rest : List Char}
    (parts : Parts part mark values cs rest) : ∃ start, Spaces cs start ∧ Opens mark start := by
  cases parts with
  | one gap value _ => exact ⟨_, gap, opens _ _ _ value⟩
  | more gap value _ _ => exact ⟨_, gap, opens _ _ _ value⟩

theorem Decided.spaced {value other : α} (decided : Decided part value)
    (opens : ∀ value cs rest, part value cs rest → Opens mark cs) {cs start stop begins ends : List Char}
    (gap : Spaces cs start) (first : part value start stop) (space : Spaces cs begins)
    (second : part other begins ends) : value = other ∧ stop = ends := by
  obtain rfl := gap.unique space (opens _ _ _ first) (opens _ _ _ second)
  exact decided _ _ _ _ first second

theorem Parts.unique (solid : isSpace mark = false) (noComma : mark ≠ ',')
    (opens : ∀ value cs rest, part value cs rest → Opens mark cs) (each : ∀ value ∈ values, Decided part value) :
    Decided (Parts part mark) values := by
  intro others cs rest left first second
  have closing (rest : List Char) : Opens ',' (mark :: rest) := ⟨mark, rest, rfl, solid, noComma⟩
  have comma (rest : List Char) : Opens mark (',' :: rest) := ⟨',', rest, rfl, rfl, noComma.symm⟩
  induction first generalizing others left with
  | one gap value stop =>
    have here := each _ List.mem_cons_self
    cases second with
    | one space other halt =>
      obtain ⟨rfl, rfl⟩ := here.spaced opens gap value space other
      cases stop.unique halt (closing _) (closing _)
      exact ⟨rfl, rfl⟩
    | more space other halt _ =>
      obtain ⟨rfl, rfl⟩ := here.spaced opens gap value space other
      cases stop.unique halt (closing _) (comma _)
      exact absurd rfl noComma
  | more gap value stop _ ih =>
    obtain ⟨here, later⟩ := List.forall_mem_cons.mp each
    cases second with
    | one space other halt =>
      obtain ⟨rfl, rfl⟩ := here.spaced opens gap value space other
      cases stop.unique halt (comma _) (closing _)
      exact absurd rfl noComma
    | more space other halt more =>
      obtain ⟨rfl, rfl⟩ := here.spaced opens gap value space other
      cases stop.unique halt (comma _) (comma _)
      obtain ⟨rfl, rfl⟩ := ih later _ _ more
      exact ⟨rfl, rfl⟩

theorem Enclosed.unique {first : Char} (solid : isSpace mark = false) (noComma : mark ≠ ',')
    (opens : ∀ value cs rest, part value cs rest → Opens mark cs) (each : ∀ value ∈ values, Decided part value) :
    Decided (Enclosed part first mark) values := by
  intro others cs rest left enclosed same
  have closing (rest : List Char) : Opens ',' (mark :: rest) := ⟨mark, rest, rfl, solid, noComma⟩
  have apart {cs rest left : List Char} {values : List α} (gap : Spaces cs (mark :: rest))
      (parts : Parts part mark values cs left) : False := by
    obtain ⟨start, space, begins⟩ := parts.opens opens
    obtain rfl := gap.unique space (closing rest) begins
    obtain ⟨c, more, alike, _, other⟩ := begins
    cases alike
    exact other rfl
  cases enclosed with
  | empty gap =>
    cases same with
    | empty space =>
      cases gap.unique space (closing _) (closing _)
      exact ⟨rfl, rfl⟩
    | filled parts => exact (apart gap parts).elim
  | filled parts =>
    cases same with
    | empty space => exact (apart space parts).elim
    | filled others => exact Parts.unique solid noComma opens each _ _ _ _ parts others

end

theorem Quoted.opens {mark : Char} (other : mark ≠ '\x22') {content : String} {cs rest : List Char}
    (quoted : Quoted content cs rest) : Opens mark cs := by
  cases quoted with
  | mk _ => exact ⟨_, _, rfl, rfl, other.symm⟩

theorem Written.opens (json : Json) (cs rest : List Char) (written : Written json cs rest) : Opens ']' cs := by
  cases written with
  | null => exact ⟨_, _, rfl, rfl, by decide⟩
  | text quoted => exact quoted.opens (by decide)
  | list enclosed => cases enclosed <;> exact ⟨_, _, rfl, rfl, by decide⟩
  | object enclosed => cases enclosed <;> exact ⟨_, _, rfl, rfl, by decide⟩

theorem Field.opens (field : String × Json) (cs rest : List Char) (written : Field Written field cs rest) :
    Opens '\x7d' cs := by
  cases written with
  | mk key _ _ _ => exact key.opens (by decide)

theorem Field.unique {field : String × Json} (decided : Decided Written field.2) : Decided (Field Written) field := by
  intro other cs rest left first second
  have colon (rest : List Char) : Opens ',' (':' :: rest) := ⟨':', rest, rfl, rfl, by decide⟩
  cases first with
  | mk key gap space value =>
    cases second with
    | mk same lap place other =>
      obtain ⟨rfl, rfl⟩ := Quoted.unique _ _ _ _ _ key same
      cases gap.unique lap (colon _) (colon _)
      obtain ⟨rfl, rfl⟩ := decided.spaced Written.opens space value place other
      exact ⟨rfl, rfl⟩

theorem Written.unique (json : Json) : Decided Written json := by
  induction json using Json.induction with
  | null =>
    intro other cs rest left first second
    cases first
    cases second with
    | null => exact ⟨rfl, rfl⟩
    | text quoted => cases quoted
    | list enclosed => cases enclosed
    | object enclosed => cases enclosed
  | text content =>
    intro other cs rest left first second
    cases first with
    | text quoted =>
      cases second with
      | null => cases quoted
      | text same =>
        obtain ⟨rfl, rfl⟩ := Quoted.unique _ _ _ _ _ quoted same
        exact ⟨rfl, rfl⟩
      | list enclosed => cases quoted; cases enclosed
      | object enclosed => cases quoted; cases enclosed
  | list items ih =>
    intro other cs rest left first second
    cases first with
    | list listed =>
      cases second with
      | null => cases listed
      | text quoted => cases quoted; cases listed
      | list same =>
        obtain ⟨rfl, rfl⟩ := Enclosed.unique rfl (by decide) Written.opens ih _ _ _ _ listed same
        exact ⟨rfl, rfl⟩
      | object enclosed => cases enclosed <;> cases listed
  | object fields ih =>
    intro other cs rest left first second
    have each : ∀ field ∈ fields, Decided (Field Written) field := by
      intro field member
      exact Field.unique (ih field member)
    cases first with
    | object keyed =>
      cases second with
      | null => cases keyed
      | text quoted => cases quoted; cases keyed
      | list enclosed => cases enclosed <;> cases keyed
      | object same =>
        obtain ⟨rfl, rfl⟩ := Enclosed.unique rfl (by decide) Field.opens each _ _ _ _ keyed same
        exact ⟨rfl, rfl⟩

end RouteDoc.Json
