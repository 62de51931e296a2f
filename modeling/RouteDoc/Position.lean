import RouteDoc.Text.Lines

/-!
Places in a source text. Spans are measured in bytes from the start of the text; for people a
place is given by its line and by the bytes that stand before it on that line.
-/

namespace RouteDoc

/-- A line and a column, both counted from zero. Columns count bytes. -/
structure Position where
  line : Nat
  column : Nat
  deriving DecidableEq, Repr, Inhabited

/-- Lines and columns are shown counted from one. -/
def Position.display (place : Position) : String :=
  toString (place.line + 1) ++ ":" ++ toString (place.column + 1)

/-- The byte offsets at which the lines of a text start, in increasing order. -/
structure LineMap where
  starts : List Nat
  deriving DecidableEq, Repr

namespace LineMap

/-- The starts of the lines after the first one, for characters that begin at `offset`. -/
def laterStarts (offset : Nat) : List Char → List Nat
  | [] => []
  | c :: rest =>
    if c = '\n' then (offset + 1) :: laterStarts (offset + 1) rest
    else laterStarts (offset + c.utf8Size) rest

/-- The line starts of a text. The first line starts at zero, every other one directly after a
line feed. -/
def ofText (source : String) : LineMap := ⟨0 :: laterStarts 0 source.toList⟩

/-- The number of lines; a text that ends in a line feed has an empty last one. -/
def lineCount (lineMap : LineMap) : Nat := lineMap.starts.length

/-- The place of a byte offset that is not before `start`, where line number `line` starts; the starts
of the lines after it are given in order. -/
def placeFrom (offset line start : Nat) : List Nat → Position
  | [] => ⟨line, offset - start⟩
  | next :: later =>
    if next ≤ offset then placeFrom offset (line + 1) next later else ⟨line, offset - start⟩

/-- The place of a byte offset: its line is the last one that starts at or before it. Offsets
inside of a character or after the end of the text have a place too. -/
def position (lineMap : LineMap) (offset : Nat) : Position :=
  placeFrom offset 0 0 lineMap.starts.tail

end LineMap

end RouteDoc
