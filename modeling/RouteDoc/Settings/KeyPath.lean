import RouteDoc.Number.Word64

/-!
The way to a setting, as it is written in a key: names after dots, and positions in lists between
square brackets.
-/

namespace RouteDoc

/-- A step on the way to a setting: to the field of a name, or to the item at a position. Negative
positions count from the end of the list. -/
inductive KeyStep
  | name (key : String)
  | item (position : Int)
  deriving DecidableEq, Repr

/-- The way to a setting from the table of all settings. -/
abbrev KeyPath := List KeyStep

namespace KeyPath

/-- Whether a character may stand in a name. -/
def isNameChar (c : Char) : Bool := c.isAlphanum || c == '_' || c == '-' || c == ' '

/-- Whether a character may stand around a position. -/
def isMargin (c : Char) : Bool := c == ' ' || c == '\t'

/-- Reads a position after its opening bracket. It has to fit into 64 bits. -/
def readPosition (cs : List Char) : Option (Int × List Char) :=
  let start := cs.dropWhile isMargin
  let (negative, rest) := match start with
    | '-' :: rest => (true, rest)
    | _ => (false, start)
  match decimal? (rest.takeWhile Char.isDigit), (rest.dropWhile Char.isDigit).dropWhile isMargin with
  | some value, ']' :: after =>
    let position : Int := if negative then -value else value
    if isSigned64 position then some (position, after) else none
  | _, _ => none

/-- Reads steps up to the end of the text. `fuel` bounds their number. -/
def readSteps : Nat → List Char → Option KeyPath
  | _, [] => some []
  | 0, _ => none
  | fuel + 1, '.' :: rest =>
    match rest.takeWhile isNameChar with
    | [] => none
    | name => (readSteps fuel (rest.dropWhile isNameChar)).map (.name (String.ofList name) :: ·)
  | fuel + 1, '[' :: rest => do
    let (position, after) ← readPosition rest
    return .item position :: (← readSteps fuel after)
  | _, _ => none

/-- The way that a key stands for. It starts with a name, which has no dot before it. -/
def ofText? (text : String) : Option KeyPath :=
  readSteps (text.toList.length + 1) ('.' :: text.toList)

end KeyPath

end RouteDoc
