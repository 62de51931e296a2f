import RouteDoc.Text.Quoted

/-!
Values of a route document.
-/

namespace RouteDoc

/-- A value is literal code, which is passed on exactly as written, or a string, which is text for
people and is quoted wherever code is generated. -/
inductive Value
  | literal (text : String)
  | string (text : String)
  deriving DecidableEq, Repr

namespace Value

/-- The text of a value without delimiters or escapes. -/
def text : Value → String
  | literal text | string text => text

/-- Whether a value is literal code. -/
def isLiteral : Value → Bool
  | literal _ => true
  | string _ => false

/-- A value as it stands in generated code: a literal verbatim, a string quoted. -/
def code : Value → String
  | literal text => text
  | string text => Text.quoted text

end Value

end RouteDoc
