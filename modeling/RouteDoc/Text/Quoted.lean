import RouteDoc.Text.Unprintable

/-!
Texts between double quotes. Every text has one quoted form; it stays on one line, and the
only unescaped double quotes in it are its two ends.
-/

namespace RouteDoc.Text

/-- The digits of a number to the base sixteen, in lower case, without leading zeros. -/
def hexDigits (n : Nat) : List Char := Nat.toDigits 16 n

/-- How one character is written inside of quotes. The common control characters, the quote and
the backslash have short escapes; any other unprintable character is written by its code point. -/
def escapeChar (c : Char) : List Char :=
  if c = '\x00' then ['\\', '0']
  else if c = '\t' then ['\\', 't']
  else if c = '\n' then ['\\', 'n']
  else if c = '\r' then ['\\', 'r']
  else if c = '\x22' then ['\\', '\x22']
  else if c = '\\' then ['\\', '\\']
  else if isUnprintable c then '\\' :: 'u' :: '\x7b' :: (hexDigits c.toNat ++ ['\x7d'])
  else [c]

/-- The characters of a text, each escaped on its own. -/
def escape (chars : List Char) : List Char := chars.flatMap escapeChar

/-- A text between double quotes. -/
def quoted (text : String) : String :=
  String.ofList ('\x22' :: (escape text.toList ++ ['\x22']))

end RouteDoc.Text
