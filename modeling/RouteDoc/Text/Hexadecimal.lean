/-!
Characters that are written as the hexadecimal digits of their code points.
-/

namespace RouteDoc.Text

/-- The value of a hexadecimal digit. -/
def hexValue? (c : Char) : Option Nat :=
  if c.isDigit then some (c.toNat - 48)
  else if 'a' ≤ c ∧ c ≤ 'f' then some (c.toNat - 87)
  else if 'A' ≤ c ∧ c ≤ 'F' then some (c.toNat - 55)
  else none

/-- Reads exactly `count` hexadecimal digits. -/
def readHex (count value : Nat) (cs : List Char) : Option (Nat × List Char) :=
  match count, cs with
  | 0, cs => some (value, cs)
  | _ + 1, [] => none
  | count + 1, c :: rest =>
    match hexValue? c with
    | some digit => readHex count (16 * value + digit) rest
    | none => none

/-- The character of a code point; surrogates and numbers that are too large have none. -/
def charOf? (code : Nat) : Option Char :=
  if code.isValidChar then some (Char.ofNat code) else none

/-- Reads the character whose code point is written with `count` digits. -/
def readCodePoint (count : Nat) (cs : List Char) : Option (Char × List Char) := do
  let (code, after) ← readHex count 0 cs
  return (← charOf? code, after)

end RouteDoc.Text
