import RouteDoc.Text.Join

/-!
JSON values made of texts, lists and objects, and their layout over several lines.
-/

namespace RouteDoc

open Text

/-- The JSON values that documents are written in. The fields of an object keep their order. -/
inductive Json
  | null
  | text (content : String)
  | list (items : List Json)
  | object (fields : List (String × Json))
  deriving Repr

namespace Json

/-- How one character is written inside of a JSON string. Only the quote, the backslash and the
control characters below the space are escaped. -/
def escapeChar (c : Char) : List Char :=
  if c = '\x22' then ['\\', '\x22']
  else if c = '\\' then ['\\', '\\']
  else if c = '\x08' then ['\\', 'b']
  else if c = '\t' then ['\\', 't']
  else if c = '\n' then ['\\', 'n']
  else if c = '\x0c' then ['\\', 'f']
  else if c = '\r' then ['\\', 'r']
  else if c.toNat < 0x20 then
    ['\\', 'u', '0', '0', Nat.digitChar (c.toNat / 16), Nat.digitChar (c.toNat % 16)]
  else [c]

/-- A text as a JSON string. -/
def quoted (content : String) : String :=
  String.ofList ('\x22' :: (content.toList.flatMap escapeChar ++ ['\x22']))

/-- The spaces at the start of a line: two for each level. -/
def indent (depth : Nat) : String := String.ofList (List.replicate (2 * depth) ' ')

/-- Parts between an opening and a closing mark: each on a line of its own, one level deeper than
`depth`, with commas between them. Without parts the marks stand together. -/
def enclosed (first last : String) (depth : Nat) (parts : List String) : String :=
  if parts.isEmpty then first ++ last else
    first ++ "\n" ++ separated ",\n" (parts.map (indent (depth + 1) ++ ·)) ++ "\n" ++
      indent depth ++ last

mutual

/-- A value laid out with one item or field a line; `depth` is the level of the line that the value
starts on. -/
def pretty (depth : Nat) : Json → String
  | null => "null"
  | text content => quoted content
  | list items => enclosed "[" "]" depth (prettyItems (depth + 1) items)
  | object fields => enclosed "\x7b" "\x7d" depth (prettyFields (depth + 1) fields)

/-- The items of a list. -/
def prettyItems (depth : Nat) : List Json → List String
  | [] => []
  | item :: items => pretty depth item :: prettyItems depth items

/-- The fields of an object, each a key and a value. -/
def prettyFields (depth : Nat) : List (String × Json) → List String
  | [] => []
  | (key, value) :: fields =>
    (quoted key ++ ": " ++ pretty depth value) :: prettyFields depth fields

end

end Json

end RouteDoc
