import RouteDoc.Position
import RouteDoc.Text.Blank
import RouteDoc.Text.Split
import RouteDoc.Token

/-!
Reading tokens from a source text. Blanks and comments between tokens are skipped. A literal or
string that is never closed ends the scan: nothing after its opening delimiter is read.
-/

namespace RouteDoc

open Text

/-- The two kinds of delimited tokens that may lack their end. -/
inductive Delimited
  | literal
  | string
  deriving DecidableEq, Repr

/-- The opening delimiter at byte `start` has no closing one. -/
structure Unclosed where
  kind : Delimited
  start : Nat
  deriving DecidableEq, Repr

/-- The tokens of a source in order, and the delimiter after them that is never closed, if there
is one. -/
structure Scan where
  lexemes : List Lexeme
  unclosed : Option Unclosed
  deriving DecidableEq, Repr

namespace Scan

/-- What stands at the start of a text: something to skip, a token, or a delimiter that is never
closed. `used` are the characters it takes and `rest` those that follow. -/
inductive Reading
  | gap (used rest : List Char)
  | token (token : Token) (used rest : List Char)
  | unclosed (kind : Delimited)

/-- The characters of a quoted string before its closing quote, escapes and all, and those after
it. A backslash takes the next character with it, so an escaped quote closes nothing. -/
def untilQuote (quote : Char) : List Char → Option (List Char × List Char)
  | [] => none
  | ['\\'] => none
  | '\\' :: escaped :: rest =>
    (untilQuote quote rest).map fun (body, after) => ('\\' :: escaped :: body, after)
  | c :: rest =>
    if c = quote then some ([], rest)
    else (untilQuote quote rest).map fun (body, after) => (c :: body, after)

/-- The text that the body of a quoted string stands for: each backslash is dropped and the
character after it is kept as it is. -/
def unescape : List Char → List Char
  | '\\' :: escaped :: rest => escaped :: unescape rest
  | c :: rest => c :: unescape rest
  | [] => []

/-- Whether a keyword may end before these characters: at the end of the text or before a blank
character of ASCII. -/
def endsKeyword : List Char → Bool
  | [] => true
  | c :: _ => isAsciiBlank c

/-- The token that a word stands for, given the characters after it. -/
def wordToken (word rest : List Char) : Token :=
  let text := String.ofList word
  if endsKeyword rest then
    match Keyword.ofText? text with
    | some keyword => .keyword keyword
    | none => .string text
  else .string text

/-- Reads a literal whose opening delimiter was `opening`. -/
def readLiteral (opening close : Char) (cs : List Char) : Reading :=
  match cutAt? close cs with
  | none => .unclosed .literal
  | some (body, rest) => .token (.literal (String.ofList body)) (opening :: (body ++ [close])) rest

/-- Reads a string whose opening quote was `quote`. -/
def readQuoted (quote : Char) (cs : List Char) : Reading :=
  match untilQuote quote cs with
  | none => .unclosed .string
  | some (body, rest) =>
    .token (.string (String.ofList (unescape body))) (quote :: (body ++ [quote])) rest

/-- Whether a comment starts with the character `c` before `cs`. -/
def startsComment (c : Char) (cs : List Char) : Bool := c == '/' && cs.head? == some '/'

/-- What stands at the start of the text `c :: cs`. Two slashes start a comment only here, where a
token may start; inside of a word they belong to the word. -/
def read (c : Char) (cs : List Char) : Reading :=
  if isBlank c then .gap (c :: cs.takeWhile isBlank) (cs.dropWhile isBlank)
  else if startsComment c cs then .gap (c :: cs.takeWhile (· ≠ '\n')) (cs.dropWhile (· ≠ '\n'))
  else if c = '\x60' then readLiteral c '\x60' cs
  else if c = '«' then readLiteral c '»' cs
  else if c = '\x22' ∨ c = '\x27' then readQuoted c cs
  else
    let word := c :: cs.takeWhile (!isBlank ·)
    let rest := cs.dropWhile (!isBlank ·)
    .token (wordToken word rest) word rest

private theorem length_dropWhile_le (p : Char → Bool) (cs : List Char) :
    (cs.dropWhile p).length ≤ cs.length := (List.dropWhile_sublist p).length_le

theorem length_untilQuote {quote : Char} {cs body rest : List Char}
    (found : untilQuote quote cs = some (body, rest)) : cs.length = body.length + 1 + rest.length := by
  fun_induction untilQuote quote cs generalizing body with
  | case1 => simp at found
  | case2 => simp at found
  | case3 escaped cs ih =>
    obtain ⟨⟨shorter, after⟩, inner, same⟩ := Option.map_eq_some_iff.1 found
    simp only [Prod.mk.injEq] at same
    obtain ⟨rfl, rfl⟩ := same
    have := ih inner
    simp only [List.length_cons]
    omega
  | case4 cs =>
    simp only [Option.some.injEq, Prod.mk.injEq] at found
    obtain ⟨rfl, rfl⟩ := found
    simp [Nat.add_comm]
  | case5 c cs _ _ _ ih =>
    obtain ⟨⟨shorter, after⟩, inner, same⟩ := Option.map_eq_some_iff.1 found
    simp only [Prod.mk.injEq] at same
    obtain ⟨rfl, rfl⟩ := same
    have := ih inner
    simp only [List.length_cons]
    omega

/-- The rest of a reading, where there is one. -/
def Reading.rest? : Reading → Option (List Char)
  | .gap _ rest | .token _ _ rest => some rest
  | .unclosed _ => none

/-- Every reading takes at least one character. -/
theorem length_rest_le {c : Char} {cs rest : List Char} (left : (read c cs).rest? = some rest) :
    rest.length ≤ cs.length := by
  unfold read at left
  split at left
  · simp only [Reading.rest?, Option.some.injEq] at left
    exact left ▸ length_dropWhile_le _ _
  split at left
  · simp only [Reading.rest?, Option.some.injEq] at left
    exact left ▸ length_dropWhile_le _ _
  have literal : ∀ close, (readLiteral c close cs).rest? = some rest → rest.length ≤ cs.length := by
    intro close left
    unfold readLiteral at left
    split at left
    · simp [Reading.rest?] at left
    · rename_i body after found
      simp only [Reading.rest?, Option.some.injEq] at left
      have := length_cutAt? found
      subst left
      omega
  split at left
  · exact literal _ left
  split at left
  · exact literal _ left
  split at left
  · unfold readQuoted at left
    split at left
    · simp [Reading.rest?] at left
    · rename_i body after found
      simp only [Reading.rest?, Option.some.injEq] at left
      have := length_untilQuote found
      subst left
      omega
  · simp only [Reading.rest?, Option.some.injEq] at left
    exact left ▸ length_dropWhile_le _ _

/-- The scan of characters that start at byte `offset` of their source. -/
def ofChars (offset : Nat) : List Char → Scan
  | [] => ⟨[], none⟩
  | c :: cs =>
    match _reading : read c cs with
    | .gap used rest => ofChars (offset + width used) rest
    | .token token used rest =>
      let stop := offset + width used
      let later := ofChars stop rest
      ⟨⟨token, offset, stop⟩ :: later.lexemes, later.unclosed⟩
    | .unclosed kind => ⟨[], some ⟨kind, offset⟩⟩
termination_by cs => cs.length
decreasing_by
  all_goals
    have : (read c cs).rest? = some rest := by simp [_reading, Reading.rest?]
    have := length_rest_le this
    simp only [List.length_cons]
    omega

/-- The scan of a whole source. -/
def ofText (source : String) : Scan := ofChars 0 source.toList

end Scan

/-- Why no text was obtained to read tokens from. -/
inductive ReadFailure
  | invalidUtf8
  | broken (reason : String)
  deriving DecidableEq, Repr

/-- The wording of a read failure. -/
def ReadFailure.message : ReadFailure → String
  | .invalidUtf8 => "stream did not contain valid UTF-8"
  | .broken reason => reason

/-- Why a source could not be turned into tokens. -/
inductive ScanError
  | unclosed (kind : Delimited) (place : Position)
  | unreadable (failure : ReadFailure)
  deriving DecidableEq, Repr

namespace ScanError

/-- The place of the opening delimiter; a source that could not be read has none. -/
def position? : ScanError → Option Position
  | .unclosed _ place => some place
  | .unreadable _ => none

/-- The wording of a scan error. -/
def message : ScanError → String
  | .unclosed .literal place => place.display ++ ": unterminated literal"
  | .unclosed .string place => place.display ++ ": unterminated string"
  | .unreadable failure => "failed to read CODL source: " ++ failure.message

end ScanError

/-- The error of a scan that met an unclosed delimiter. -/
def Unclosed.error (unclosed : Unclosed) (lineMap : LineMap) : ScanError :=
  .unclosed unclosed.kind (lineMap.position unclosed.start)

/-- All tokens of a source, or the error that ends the scan; the tokens before it are lost. -/
def tokenize (source : String) : Except ScanError (List Lexeme) :=
  let scan := Scan.ofText source
  match scan.unclosed with
  | some unclosed => .error (unclosed.error (.ofText source))
  | none => .ok scan.lexemes

/-- The text of a source given by its bytes. A byte order mark is part of the text. -/
def readSource (bytes : ByteArray) : Except ScanError String :=
  match String.fromUTF8? bytes with
  | some text => .ok text
  | none => .error (.unreadable .invalidUtf8)

end RouteDoc
