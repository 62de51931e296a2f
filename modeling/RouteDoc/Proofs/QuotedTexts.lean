import RouteDoc.Output.StringLiterals
import RouteDoc.Proofs.Reading

/-! A quoted text is a string literal of that text: nothing in it ends the literal early, and every escape in
it is read back as the character that was escaped. Code that is put together from such literals and from pieces
without quotes is read as these pieces are. -/

namespace RouteDoc.Text
open Code Spelling

/-! The digits of code points. -/

theorem readHex_append (first later : List Char) (count value : Nat) :
    readHex (first.length + count) value (first ++ later) =
      (readHex first.length value first).bind fun taken => readHex count taken.1 later := by
  induction first generalizing value with
  | nil => simp [readHex]
  | cons c first ih =>
    rw [List.length_cons, Nat.add_right_comm, List.cons_append, readHex, readHex]
    cases hexValue? c with
    | none => rfl
    | some digit => exact ih _

theorem hexValue?_digitChar : ∀ digit < 16, hexValue? (Nat.digitChar digit) = some digit := by decide

theorem readHex_hexDigits (n : Nat) : readHex (hexDigits n).length 0 (hexDigits n) = some (n, []) := by
  induction n using Nat.strongRecOn with
  | ind n ih =>
    by_cases single : n < 16
    · rw [hexDigits, Nat.toDigits_of_lt_base single]
      simp [readHex, hexValue?_digitChar n single]
    · have last : n % 16 < 16 := Nat.mod_lt n (by decide)
      have shorter := ih (n / 16) (by omega)
      unfold hexDigits at shorter ⊢
      rw [Nat.toDigits_of_base_le (by decide) (by omega), List.length_append, readHex_append, shorter]
      simp [readHex, hexValue?_digitChar (n % 16) last, Nat.div_add_mod]

theorem isSome_of_mem_hexDigits {n : Nat} {c : Char} (member : c ∈ hexDigits n) : (hexValue? c).isSome = true := by
  induction n using Nat.strongRecOn with
  | ind n ih =>
    by_cases single : n < 16
    · rw [hexDigits, Nat.toDigits_of_lt_base single, List.mem_singleton] at member
      rw [member, hexValue?_digitChar n single]
      rfl
    · rw [hexDigits, Nat.toDigits_of_base_le (by decide) (by omega), List.mem_append] at member
      rcases member with member | member
      · exact ih (n / 16) (by omega) member
      · rw [List.mem_singleton.mp member, hexValue?_digitChar (n % 16) (Nat.mod_lt n (by decide))]
        rfl

theorem codePoint?_hexDigits (c : Char) : codePoint? (hexDigits c.toNat) = some c := by
  have valid : c.toNat.isValidChar := c.valid
  have small : c.toNat < 16 ^ 6 := by
    rw [Nat.isValidChar] at valid
    omega
  have short : (hexDigits c.toNat).length ≤ 6 := (Nat.length_toDigits_le_iff (by decide) (by decide)).mpr small
  rw [codePoint?, if_pos ⟨Nat.length_toDigits_pos, short⟩, readCodePoint, readHex_hexDigits]
  simp [charOf?, valid]

/-! What a character becomes between quotes. -/

/-- The ways in which a string literal may spell a character. -/
inductive Escaped (c : Char) : List Char → Prop
  | short {letter : Char} : shortEscape? letter = some c → Escaped c ['\\', letter]
  | codePoint : Escaped c ('\\' :: 'u' :: '\x7b' :: (hexDigits c.toNat ++ ['\x7d']))
  | plain : c ≠ '\x22' → c ≠ '\\' → Escaped c [c]

theorem escaped_escapeChar (c : Char) : Escaped c (escapeChar c) := by
  by_cases nul : c = '\x00'
  · subst nul; exact .short rfl
  by_cases tab : c = '\t'
  · subst tab; exact .short rfl
  by_cases feed : c = '\n'
  · subst feed; exact .short rfl
  by_cases carriage : c = '\r'
  · subst carriage; exact .short rfl
  by_cases quote : c = '\x22'
  · subst quote; exact .short rfl
  by_cases backslash : c = '\\'
  · subst backslash; exact .short rfl
  rw [escapeChar, if_neg nul, if_neg tab, if_neg feed, if_neg carriage, if_neg quote, if_neg backslash]
  split
  · exact .codePoint
  · exact .plain quote backslash

theorem Escaped.decode? {c : Char} {spelled : List Char} (escaped : Escaped c spelled) (rest : List Char) :
    Code.decode? (spelled ++ rest) = (Code.decode? rest).map (c :: ·) := by
  cases escaped with
  | @short letter means =>
    have noCode : ∀ cs, letter = 'u' → rest = '\x7b' :: cs → False := by
      intro cs same _
      subst same
      cases means
    simp only [List.cons_append, List.nil_append]
    rw [Code.decode?.eq_3 _ _ noCode, means]
    cases Code.decode? rest <;> rfl
  | codePoint =>
    have ends : '\x7d' ∉ hexDigits c.toNat := by
      intro member
      cases isSome_of_mem_hexDigits member
    simp only [List.cons_append, List.append_assoc, List.nil_append]
    rw [Code.decode?, cutAt?_append rest ends]
    simp only [codePoint?_hexDigits]
    cases Code.decode? rest <;> rfl
  | plain _ solid =>
    rw [List.singleton_append, Code.decode?.eq_5] <;> intros <;> contradiction

theorem Escaped.body {c : Char} {spelled : List Char} (escaped : Escaped c spelled) {body text : List Char}
    (more : Body '\x22' body text) : ∃ all, Body '\x22' (spelled ++ body) all := by
  cases escaped with
  | short _ => exact ⟨_, .escaped more⟩
  | plain other solid => exact ⟨_, .plain other solid more⟩
  | codePoint =>
    have digits (ds : List Char) (hex : ∀ d ∈ ds, (hexValue? d).isSome = true) :
        ∃ all, Body '\x22' (ds ++ '\x7d' :: body) all := by
      induction ds with
      | nil => exact ⟨_, .plain (by decide) (by decide) more⟩
      | cons d ds ih =>
        obtain ⟨first, others⟩ := List.forall_mem_cons.mp hex
        obtain ⟨all, spelled⟩ := ih others
        refine ⟨d :: all, .plain ?_ ?_ spelled⟩
        · intro same
          subst same
          cases first
        · intro same
          subst same
          cases first
    obtain ⟨all, spelled⟩ := digits (hexDigits c.toNat) fun _ member => isSome_of_mem_hexDigits member
    simp only [List.cons_append, List.append_assoc, List.nil_append]
    exact ⟨_, .escaped (.plain (by decide) (by decide) spelled)⟩

/-! What a text becomes. -/

theorem decode?_escape (text : List Char) : decode? (escape text) = some text := by
  induction text with
  | nil => rw [escape, List.flatMap_nil, decode?]
  | cons c text ih =>
    rw [escape, List.flatMap_cons, (escaped_escapeChar c).decode?]
    unfold escape at ih
    rw [ih]
    rfl

theorem untilQuote_escape (text rest : List Char) :
    Scan.untilQuote '\x22' (escape text ++ '\x22' :: rest) = some (escape text, rest) := by
  have spelled : ∃ all, Body '\x22' (escape text) all := by
    induction text with
    | nil => exact ⟨[], .nil⟩
    | cons c text ih =>
      obtain ⟨_, more⟩ := ih
      exact (escaped_escapeChar c).body more
  obtain ⟨_, spelled⟩ := spelled
  exact spelled.untilQuote (by decide) rest

theorem unbroken_escapeChar (c : Char) : '\n' ∉ escapeChar c := by
  by_cases feed : c = '\n'
  · subst feed
    decide
  unfold escapeChar
  iterate 5
    split
    next => decide
  split
  next =>
    simp only [List.mem_cons, List.mem_append, not_or]
    refine ⟨by decide, by decide, by decide, ?_, by decide⟩
    intro digit
    cases isSome_of_mem_hexDigits digit
  next => simpa using Ne.symm feed

/-- A quoted text stays on its line. -/
theorem unbroken_quoted (text : String) : '\n' ∉ (quoted text).toList := by
  intro member
  rw [quoted, String.toList_ofList, List.mem_cons, List.mem_append, escape, List.mem_flatMap] at member
  obtain quote | ⟨c, _, inside⟩ | quote := member
  · cases quote
  · exact unbroken_escapeChar c inside
  · cases List.mem_singleton.mp quote

end RouteDoc.Text

namespace RouteDoc.Code
open Text

/-! Code is read piece by piece. -/

theorem read_quoted (text rest : List Char) :
    read ('\x22' :: (escape text ++ '\x22' :: rest)) =
      (read rest).map fun later => ⟨String.ofList text :: later.literals, '\x22' :: '\x22' :: later.blanked⟩ := by
  rw [read, if_pos rfl, untilQuote_escape]
  simp only [decode?_escape]
  cases read rest <;> rfl

/-- Code with string literals of the given texts, which is the blanked code when they are emptied. What
follows it is read on its own. -/
def Holds (code : String) (texts : List String) (blanked : String) : Prop :=
  ∀ rest, read (code.toList ++ rest) =
    (read rest).map fun later => ⟨texts ++ later.literals, blanked.toList ++ later.blanked⟩

namespace Holds
variable {code more blanked others : String} {texts added : List String}

theorem reading (holds : Holds code texts blanked) : read code.toList = some ⟨texts, blanked.toList⟩ := by
  have whole := holds []
  simpa [read] using whole

theorem append (first : Holds code texts blanked) (second : Holds more added others) :
    Holds (code ++ more) (texts ++ added) (blanked ++ others) := by
  intro rest
  rw [String.toList_append, String.toList_append, List.append_assoc, first, second, Option.map_map]
  cases read rest with
  | none => rfl
  | some later => simp

theorem plain (unquoted : '\x22' ∉ code.toList) : Holds code [] code := by
  intro rest
  generalize code.toList = cs at unquoted ⊢
  induction cs with
  | nil => simp
  | cons c cs ih =>
    obtain ⟨other, others⟩ := List.ne_and_not_mem_of_not_mem_cons unquoted
    rw [List.cons_append, read, if_neg (Ne.symm other), ih others, Option.map_map]
    rfl

theorem quoted (text : String) : Holds (Text.quoted text) [text] "\x22\x22" := by
  intro rest
  have whole := read_quoted text.toList rest
  simpa [Text.quoted] using whole

theorem concat {α : Type} {items : List α} {code blanked : α → String} {texts : α → List String}
    (each : ∀ item ∈ items, Holds (code item) (texts item) (blanked item)) :
    Holds (concat (items.map code)) (items.flatMap texts) (concat (items.map blanked)) := by
  induction items with
  | nil => exact plain (by simp [Text.concat])
  | cons item items ih =>
    obtain ⟨first, others⟩ := List.forall_mem_cons.mp each
    have both := first.append (ih others)
    simpa [Text.concat] using both

theorem separated {α : Type} {items : List α} {code blanked : α → String} {texts : α → List String}
    {separator : String} (unquoted : '\x22' ∉ separator.toList)
    (each : ∀ item ∈ items, Holds (code item) (texts item) (blanked item)) :
    Holds (separated separator (items.map code)) (items.flatMap texts) (separated separator (items.map blanked)) := by
  induction items with
  | nil => exact plain (by simp [Text.separated])
  | cons item items ih =>
    obtain ⟨first, others⟩ := List.forall_mem_cons.mp each
    cases items with
    | nil => simpa [Text.separated] using first
    | cons next items =>
      have both := (first.append (plain unquoted)).append (ih others)
      simpa [Text.separated] using both

end Holds
end RouteDoc.Code
