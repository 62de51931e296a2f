/-!
Blank characters. Words of a route document end at any blank character, while a keyword
asks for a blank character of ASCII, so both classes are needed.
-/

namespace RouteDoc.Text

/-- The blank characters of ASCII: tab, line feed, vertical tab, form feed, carriage return
and space. -/
def isAsciiBlank (c : Char) : Bool :=
  (0x09 ≤ c.toNat && c.toNat ≤ 0x0d) || c.toNat == 0x20

/-- The characters with the Unicode property White_Space. -/
def isBlank (c : Char) : Bool :=
  isAsciiBlank c || c.toNat == 0x85 || c.toNat == 0xa0 || c.toNat == 0x1680 ||
    (0x2000 ≤ c.toNat && c.toNat ≤ 0x200a) || c.toNat == 0x2028 || c.toNat == 0x2029 ||
    c.toNat == 0x202f || c.toNat == 0x205f || c.toNat == 0x3000

theorem isBlank_of_isAsciiBlank {c : Char} (blank : isAsciiBlank c = true) : isBlank c = true := by
  simp [isBlank, blank]

/-- Whether a text holds nothing but blank characters. -/
def allBlank (text : String) : Bool := text.toList.all isBlank

end RouteDoc.Text
