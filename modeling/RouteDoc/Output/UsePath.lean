import RouteDoc.Output.Registration

/-!
What can follow `use` in generated code, as the language has it: identifiers with two colons between
them, and perhaps a glob at the end. The reserved words of the generator are not all of its keywords.
-/

namespace RouteDoc.Registration

/-- The keywords of the language, both those in use and those kept for later. `crate`, `self` and `super`
may stand in a path and are not listed. -/
def keywords : List String := [
  "as", "async", "await", "break", "const", "continue", "dyn", "else", "enum", "extern", "false", "fn", "for",
  "if", "impl", "in", "let", "loop", "match", "mod", "move", "mut", "pub", "ref", "return", "Self", "static",
  "struct", "trait", "true", "type", "unsafe", "use", "where", "while",
  "abstract", "become", "box", "do", "final", "macro", "override", "priv", "try", "typeof", "unsized", "virtual",
  "yield"]

/-- The keywords that the generator does not know as reserved. -/
def overlookedWords : List String := keywords.filter (· ∉ reservedWords)

example : overlookedWords =
    ["Self", "abstract", "become", "final", "override", "priv", "typeof", "unsized", "virtual"] := by decide

/-- An identifier of ASCII that is none of the given words. -/
structure Identifier (words : List String) (segment : List Char) : Prop where
  spelled : ∃ c rest, segment = c :: rest ∧ startsIdentifier c = true ∧ ∀ d ∈ rest, continuesIdentifier d = true
  named : segment ≠ ['_']
  free : String.ofList segment ∉ words

/-- A path for a `use` item, with none of the given words in it. -/
inductive UsePath (words : List String) : List Char → Prop
  | name {segment : List Char} : Identifier words segment → UsePath words segment
  | glob {segment : List Char} : Identifier words segment → UsePath words (segment ++ [':', ':', '*'])
  | inside {segment rest : List Char} : Identifier words segment → UsePath words rest →
      UsePath words (segment ++ ':' :: ':' :: rest)

end RouteDoc.Registration
