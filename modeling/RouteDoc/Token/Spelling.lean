import RouteDoc.Text.Blank
import RouteDoc.Text.Lines
import RouteDoc.Token

/-!
How tokens may be spelled, and what may stand between them. A token has many spellings: a literal
has two pairs of delimiters, a string two quotes with optional backslashes, and a string without
blanks may stand bare.
-/

namespace RouteDoc

open Text

namespace Spelling

/-- A string between quotes: the quote and the backslash have a backslash before them, any other
character may have one. -/
inductive Body (quote : Char) : List Char → List Char → Prop
  | nil : Body quote [] []
  | plain {c : Char} {body text : List Char} : c ≠ quote → c ≠ '\\' → Body quote body text →
      Body quote (c :: body) (c :: text)
  | escaped {c : Char} {body text : List Char} : Body quote body text →
      Body quote ('\\' :: c :: body) (c :: text)

/-- The characters that start something else than a bare word. -/
def opensDelimited (c : Char) : Bool := c == '\x60' || c == '«' || c == '\x22' || c == '\x27'

/-- A run of characters that is read as one word: it holds no blank, and starts neither a delimited
token nor a comment. -/
structure Word (word : List Char) : Prop where
  notEmpty : word ≠ []
  unbroken : ∀ c ∈ word, isBlank c = false
  notOpening : ∀ c ∈ word.head?, opensDelimited c = false
  notComment : word.take 2 ≠ ['/', '/']

/-- A word that may stand for itself as a string: it is no keyword. -/
structure Bare (word : List Char) : Prop extends Word word where
  notKeyword : ∀ keyword : Keyword, word ≠ keyword.text.toList

theorem word_iff {word : List Char} :
    Word word ↔ word ≠ [] ∧ word.all (!isBlank ·) = true ∧
      word.head?.all (!opensDelimited ·) = true ∧ word.take 2 ≠ ['/', '/'] := by
  constructor
  · intro ⟨notEmpty, unbroken, notOpening, notComment⟩
    exact ⟨notEmpty, by simpa using unbroken, by simpa [Option.all_eq_true] using notOpening, notComment⟩
  · intro ⟨notEmpty, unbroken, notOpening, notComment⟩
    exact ⟨notEmpty, by simpa using unbroken, by simpa [Option.all_eq_true] using notOpening, notComment⟩

instance (word : List Char) : Decidable (Word word) := decidable_of_iff _ word_iff.symm

theorem bare_iff {word : List Char} :
    Bare word ↔ Word word ∧ Keyword.all.all (fun keyword => word != keyword.text.toList) = true := by
  constructor
  · intro ⟨solid, notKeyword⟩
    exact ⟨solid, by simpa using fun keyword _ => notKeyword keyword⟩
  · intro ⟨solid, notKeyword⟩
    refine ⟨solid, fun keyword => ?_⟩
    simpa using List.all_eq_true.mp notKeyword keyword keyword.mem_all

instance (word : List Char) : Decidable (Bare word) := decidable_of_iff _ bare_iff.symm

/-- What has to follow a spelling, so that the token ends there. -/
inductive Ending
  | asciiBlank
  | blank
  | free
  deriving DecidableEq, Repr

/-- Whether a spelling with an ending may stand before characters. The end of the text ends every
token. -/
def Ending.admits : Ending → List Char → Prop
  | _, [] => True
  | asciiBlank, c :: _ => isAsciiBlank c = true
  | blank, c :: _ => isBlank c = true
  | free, _ :: _ => True

instance : (ending : Ending) → (cs : List Char) → Decidable (ending.admits cs)
  | _, [] => .isTrue trivial
  | .asciiBlank, c :: _ => inferInstanceAs (Decidable (isAsciiBlank c = true))
  | .blank, c :: _ => inferInstanceAs (Decidable (isBlank c = true))
  | .free, _ :: _ => .isTrue trivial

end Spelling

/-- The spellings of a token, and what has to follow them. -/
inductive Spells : Token → List Char → Spelling.Ending → Prop
  | keyword (word : Keyword) : Spells (.keyword word) word.text.toList .asciiBlank
  | backticks {text : List Char} : '\x60' ∉ text →
      Spells (.literal (String.ofList text)) ('\x60' :: (text ++ ['\x60'])) .free
  | guillemets {text : List Char} : '»' ∉ text →
      Spells (.literal (String.ofList text)) ('«' :: (text ++ ['»'])) .free
  | quotes {quote : Char} {body text : List Char} : quote = '\x22' ∨ quote = '\x27' →
      Spelling.Body quote body text →
      Spells (.string (String.ofList text)) (quote :: (body ++ [quote])) .free
  | bare {word : List Char} : Spelling.Bare word →
      Spells (.string (String.ofList word)) word .blank

/-- What is skipped between tokens: blanks, and comments that end with their line. -/
inductive Gap : List Char → Prop
  | nil : Gap []
  | blank {c : Char} {rest : List Char} : isBlank c = true → Gap rest → Gap (c :: rest)
  | comment {body rest : List Char} : '\n' ∉ body → Gap rest →
      Gap ('/' :: '/' :: (body ++ '\n' :: rest))

/-- A gap at the end of a source, where a comment need not end. -/
inductive LastGap : List Char → Prop
  | closed {gap : List Char} : Gap gap → LastGap gap
  | open_ {gap body : List Char} : Gap gap → '\n' ∉ body →
      LastGap (gap ++ '/' :: '/' :: body)

/-- A source that begins at byte `offset` and spells tokens in their order, with a gap before each
and one at the end. Every lexeme has the bytes of its spelling. -/
inductive Layout : Nat → List Lexeme → List Char → Prop
  | last {offset : Nat} {gap : List Char} : LastGap gap → Layout offset [] gap
  | more {offset : Nat} {token : Token} {lexemes : List Lexeme} {gap spelled rest : List Char}
      {ending : Spelling.Ending} :
      Gap gap → Spells token spelled ending → ending.admits rest →
      Layout (offset + width (gap ++ spelled)) lexemes rest →
      Layout offset (⟨token, offset + width gap, offset + width (gap ++ spelled)⟩ :: lexemes)
        (gap ++ spelled ++ rest)

end RouteDoc
