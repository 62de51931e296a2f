import RouteDoc.Text.Quoted

/-!
Tokens of the route language: keywords, literal code, and strings.
-/

namespace RouteDoc

/-- The words with a meaning of their own. `INCLUDE` is a second spelling of `INCLUDES`, which
only one of the dialects accepts. -/
inductive Keyword
  | importWord
  | includesWord
  | includeWord
  | routeWord
  | usingWord
  | doesWord
  | fromWord
  deriving DecidableEq, Repr

namespace Keyword

/-- The spelling of a keyword. -/
def text : Keyword → String
  | importWord => "IMPORT"
  | includesWord => "INCLUDES"
  | includeWord => "INCLUDE"
  | routeWord => "ROUTE"
  | usingWord => "USING"
  | doesWord => "DOES"
  | fromWord => "FROM"

/-- The name of a keyword where tokens are listed by kind. -/
def title : Keyword → String
  | importWord => "Import"
  | includesWord => "Includes"
  | includeWord => "Include"
  | routeWord => "Route"
  | usingWord => "Using"
  | doesWord => "Does"
  | fromWord => "From"

/-- Every keyword. -/
def all : List Keyword :=
  [importWord, includesWord, includeWord, routeWord, usingWord, doesWord, fromWord]

theorem mem_all (k : Keyword) : k ∈ all := by cases k <;> simp [all]

/-- The keyword with the given spelling; case matters. -/
def ofText? (word : String) : Option Keyword := all.find? fun k => k.text == word

end Keyword

/-- A token without its place. The text of a literal or string has neither delimiters nor
escapes. -/
inductive Token
  | keyword (word : Keyword)
  | literal (text : String)
  | string (text : String)
  deriving DecidableEq, Repr

/-- How a token is shown to people: a keyword by its spelling, a literal between guillemets, a
string quoted. -/
def Token.display : Token → String
  | .keyword word => word.text
  | .literal text => "«" ++ text ++ "»"
  | .string text => Text.quoted text

/-- A token by its kind, with the text quoted where it has one. -/
def Token.describe : Token → String
  | .keyword word => word.title
  | .literal text => "Literal(" ++ Text.quoted text ++ ")"
  | .string text => "Str(" ++ Text.quoted text ++ ")"

/-- The keyword that a token is, if it is one. -/
def Token.keyword? : Token → Option Keyword
  | .keyword word => some word
  | .literal _ | .string _ => none

/-- A token with the bytes of the source that it was read from: from `start` up to, but not
including, `stop`. -/
structure Lexeme where
  token : Token
  start : Nat
  stop : Nat
  deriving DecidableEq, Repr

end RouteDoc
