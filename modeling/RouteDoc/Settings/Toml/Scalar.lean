import RouteDoc.Number.Word64
import RouteDoc.Settings.Toml
import RouteDoc.Text.Hexadecimal
import RouteDoc.Text.Split

/-!
Single TOML values as they are written: the four kinds of strings, numbers and booleans. Every
reader gives what it read and the characters after it, or nothing if the text is not well formed.
-/

namespace RouteDoc.Toml

open Text

/-- Whether a character may stand in a comment or string as it is: a tab, or any character that is
not a control character of ASCII. -/
def isPlain (c : Char) : Bool := c == '\t' || (0x20 ≤ c.toNat && c.toNat != 0x7f)

/-- Reads an escaped character after its backslash. -/
def readEscape : List Char → Option (Char × List Char)
  | 'b' :: rest => some ('\x08', rest)
  | 't' :: rest => some ('\t', rest)
  | 'n' :: rest => some ('\n', rest)
  | 'f' :: rest => some ('\x0c', rest)
  | 'r' :: rest => some ('\r', rest)
  | '\x22' :: rest => some ('\x22', rest)
  | '\\' :: rest => some ('\\', rest)
  | 'u' :: rest => readCodePoint 4 rest
  | 'U' :: rest => readCodePoint 8 rest
  | _ => none

/-- Adds a character in front of what was read. -/
def prepend (c : Char) (read : List Char × List Char) : List Char × List Char :=
  (c :: read.1, read.2)

/-- Reads a string on one line after its opening quote. `fuel` bounds the number of characters. -/
def readBasic (fuel : Nat) (cs : List Char) : Option (List Char × List Char) :=
  match fuel, cs with
  | 0, _ | _, [] => none
  | fuel + 1, c :: rest =>
    if c = '\x22' then some ([], rest)
    else if c = '\\' then do
      let (escaped, after) ← readEscape rest
      return prepend escaped (← readBasic fuel after)
    else if isPlain c then do return prepend c (← readBasic fuel rest)
    else none

/-- Reads a string without escapes on one line after its opening quote. -/
def readVerbatim : List Char → Option (List Char × List Char)
  | [] => none
  | c :: rest =>
    if c = '\x27' then some ([], rest)
    else if isPlain c then (readVerbatim rest).map (prepend c)
    else none

/-- Drops a line end, if there is one. -/
def dropLineEnd : List Char → List Char
  | '\n' :: rest => rest
  | '\r' :: '\n' :: rest => rest
  | cs => cs

/-- Drops blanks and line ends. -/
def dropSpace : List Char → List Char
  | ' ' :: rest | '\t' :: rest | '\n' :: rest => dropSpace rest
  | '\r' :: '\n' :: rest => dropSpace rest
  | cs => cs

/-- Whether a line ends here, perhaps after blanks. -/
def lineEndsHere (cs : List Char) : Bool :=
  match cs.dropWhile (fun c => c = ' ' || c = '\t') with
  | '\n' :: _ | '\r' :: '\n' :: _ => true
  | _ => false

/-- Reads quotes in a string over several lines: how many of them are text, and whether the string
ends. Three close it; up to two more before them are text. -/
def splitQuotes (count : Nat) : Nat × Bool :=
  if count < 3 then (count, false) else (min count 5 - 3, true)

/-- Reads a string over several lines after its opening quotes and the line end that may follow
them. Line ends become line feeds; a backslash at the end of a line joins it with the next text. -/
def readLines (quote : Char) (escapes : Bool) (fuel : Nat) (cs : List Char) :
    Option (List Char × List Char) :=
  match fuel, cs with
  | 0, _ | _, [] => none
  | fuel + 1, c :: rest =>
    if c = quote then
      let count := 1 + (rest.takeWhile (· = quote)).length
      let (kept, ends) := splitQuotes count
      if ends then some (List.replicate kept quote, rest.drop (kept + 2))
      else do
        let (body, after) ← readLines quote escapes fuel (rest.drop (kept - 1))
        return (List.replicate kept quote ++ body, after)
    else if c = '\n' then do return prepend '\n' (← readLines quote escapes fuel rest)
    else if c = '\r' then
      match rest with
      | '\n' :: after => do return prepend '\n' (← readLines quote escapes fuel after)
      | _ => none
    else if escapes && c = '\\' then
      if lineEndsHere rest then readLines quote escapes fuel (dropSpace rest)
      else do
        let (escaped, after) ← readEscape rest
        return prepend escaped (← readLines quote escapes fuel after)
    else if isPlain c then do return prepend c (← readLines quote escapes fuel rest)
    else none

/-- Reads a string of any of the four kinds. -/
def readString (cs : List Char) : Option (String × List Char) :=
  let read := match cs with
    | '\x22' :: '\x22' :: '\x22' :: rest => readLines '\x22' true (rest.length + 1) (dropLineEnd rest)
    | '\x27' :: '\x27' :: '\x27' :: rest => readLines '\x27' false (rest.length + 1) (dropLineEnd rest)
    | '\x22' :: rest => readBasic (rest.length + 1) rest
    | '\x27' :: rest => readVerbatim rest
    | _ => none
  read.map fun (body, after) => (String.ofList body, after)

/-- The digits of a number without the underscores, each of which has to stand between digits. -/
def digits? (isDigit : Char → Bool) : List Char → Option (List Char)
  | [] => none
  | [c] => if isDigit c then some [c] else none
  | c :: '_' :: rest => if isDigit c then (digits? isDigit rest).map (c :: ·) else none
  | c :: rest => if isDigit c then (digits? isDigit rest).map (c :: ·) else none

/-- The number that digits to a base make. -/
def valueOf (base : Nat) (digits : List Char) : Nat :=
  digits.foldl (fun value c => base * value + (hexValue? c).getD 0) 0

/-- A whole number, if it fits into 64 bits with a sign. -/
def whole? (number : Int) : Option Scalar :=
  if isSigned64 number then some (.whole number) else none

/-- The sign of a number, and the characters after it. -/
def sign : List Char → Bool × List Char
  | '-' :: rest => (true, rest)
  | '+' :: rest => (false, rest)
  | cs => (false, cs)

/-- Decimal digits before a point, exponent or end: a leading zero stands alone. -/
def decimal? (cs : List Char) : Option (List Char) :=
  match digits? Char.isDigit cs with
  | some ['0'] => some ['0']
  | some ('0' :: _) => none
  | other => other

/-- An exponent after its letter. -/
def exponent? (cs : List Char) : Option Int :=
  let (negative, rest) := sign cs
  (digits? Char.isDigit rest).map fun digits =>
    if negative then -(valueOf 10 digits : Int) else valueOf 10 digits

/-- A fraction, with or without an exponent, or a whole number with one. -/
def real? (cs : List Char) : Option Scalar := do
  let (negative, rest) := sign cs
  let isExponent (c : Char) : Bool := c = 'e' || c = 'E'
  let front := rest.takeWhile (!isExponent ·)
  let back := rest.dropWhile (!isExponent ·)
  let power ← if back = [] then some 0 else exponent? back.tail
  let (before, after) ← match cutAt? '.' front with
    | none => if back = [] then none else do some (← decimal? front, [])
    | some (units, places) => do some (← decimal? units, ← digits? Char.isDigit places)
  let number := Binary64.ofDecimal negative (valueOf 10 (before ++ after)) (power - after.length)
  if number = .infinite false then none else some (.real number)

/-- A number without a point or exponent. -/
def integer? (cs : List Char) : Option Scalar :=
  match cs with
  | '0' :: 'x' :: rest => do whole? (valueOf 16 (← digits? (fun c => (hexValue? c).isSome) rest))
  | '0' :: 'o' :: rest => do whole? (valueOf 8 (← digits? (fun c => '0' ≤ c && c ≤ '7') rest))
  | '0' :: 'b' :: rest => do whole? (valueOf 2 (← digits? (fun c => c = '0' || c = '1') rest))
  | _ => do
    let (negative, rest) := sign cs
    let digits ← decimal? rest
    whole? (if negative then -(valueOf 10 digits : Int) else valueOf 10 digits)

/-- The numbers that are written with letters. -/
def special? (cs : List Char) : Option Scalar :=
  let (negative, rest) := sign cs
  if rest = ['i', 'n', 'f'] then some (.real (.infinite negative))
  else if rest = ['n', 'a', 'n'] then some (.real .nan)
  else none

/-- A boolean or number that takes up the characters as a whole. -/
def word? (cs : List Char) : Option Scalar :=
  if cs = ['t', 'r', 'u', 'e'] then some (.flag true)
  else if cs = ['f', 'a', 'l', 's', 'e'] then some (.flag false)
  else (integer? cs).or ((special? cs).or (real? cs))

/-- Whether a character may stand in a key without quotes. -/
def isKeyChar (c : Char) : Bool := c.isAlphanum || c == '_' || c == '-'

/-- Whether a character may stand in a boolean or number. -/
def isWordChar (c : Char) : Bool := isKeyChar c || c == '+' || c == '.'

/-- Reads a boolean or number. -/
def readWord (cs : List Char) : Option (Scalar × List Char) :=
  (word? (cs.takeWhile isWordChar)).map fun value => (value, cs.dropWhile isWordChar)

end RouteDoc.Toml
