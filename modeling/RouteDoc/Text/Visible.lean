import RouteDoc.Text.Quoted

/-!
Texts that are safe to show on a terminal: the characters that would steer it are written by their
code points.
-/

namespace RouteDoc.Text

/-- Whether a terminal takes a character as a command: bell, backspace, form feed, escape, delete,
and the control characters beyond ASCII. Those that only lay out text are not among them. -/
def isCommand (c : Char) : Bool :=
  c.toNat == 0x07 || c.toNat == 0x08 || c.toNat == 0x0c || c.toNat == 0x1b ||
    (0x7f ≤ c.toNat && c.toNat ≤ 0x9f)

/-- A character as it is shown. -/
def visibleChar (c : Char) : List Char :=
  let digits := hexDigits c.toNat
  if !isCommand c then [c]
  else if c.toNat < 0x80 then
    '\\' :: 'x' :: (List.replicate (2 - digits.length) '0' ++ digits)
  else '\\' :: 'u' :: '\x7b' :: (digits ++ ['\x7d'])

/-- A text as it is shown. -/
def visible (text : String) : String := String.ofList (text.toList.flatMap visibleChar)

end RouteDoc.Text
