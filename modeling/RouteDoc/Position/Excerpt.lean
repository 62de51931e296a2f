import RouteDoc.Position
import RouteDoc.Text.Join

/-!
The lines of a source around a place, numbered, with the line of the place marked.
-/

namespace RouteDoc

open Text

/-- How many lines are shown before and after the marked one. -/
def Excerpt.margin : Nat := 2

/-- One numbered line of an excerpt. Numbers start at one and are aligned to three digits. -/
def Excerpt.row (marked number : Nat) (line : List Char) : String :=
  (if number = marked then ">>" else "  ") ++ " " ++ alignedRight 3 (toString (number + 1)) ++
    " | " ++ String.ofList line ++ "\n"

/-- The line of a place with up to two lines before it and two after it. Nothing is shown of a
line that the source does not have. -/
def excerpt (source : String) (place : Position) : String :=
  let numbered := (Text.lines source.toList).zipIdx
  let first := place.line - Excerpt.margin
  let shown := (numbered.drop first).take (place.line + Excerpt.margin + 1 - first)
  Text.concat (shown.map fun (line, number) => Excerpt.row place.line number line)

end RouteDoc
