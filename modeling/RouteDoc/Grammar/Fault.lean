import RouteDoc.Position
import RouteDoc.Token

/-!
The rules of the grammar, and how a violation is reported.
-/

namespace RouteDoc

/-- The two generations of the grammar. The permissive one takes a string for a handler and
`INCLUDE` for `INCLUDES`; the strict one asks for a literal handler and reads `INCLUDE` as a
string. -/
inductive Dialect
  | strict
  | permissive
  deriving DecidableEq, Repr, Inhabited

/-- What a value means depends on the keyword before it: the mode is the last keyword seen, or
`top` before any. -/
inductive Mode
  | top
  | imports
  | route
  | includes
  | handler
  | param
  | sources
  deriving DecidableEq, Repr, Inhabited

namespace Mode

/-- The name of a mode: that of its keyword. -/
def display : Mode → String
  | top => "top level"
  | imports => Keyword.importWord.text
  | route => Keyword.routeWord.text
  | includes => Keyword.includesWord.text
  | handler => Keyword.doesWord.text
  | param => Keyword.usingWord.text
  | sources => Keyword.fromWord.text

/-- Whether a route has been opened. -/
def inRoute : Mode → Bool
  | top | imports => false
  | route | includes | handler | param | sources => true

end Mode

/-- The rules that a token can break. The last two are broken by what is absent when a command or
binding ends. -/
inductive Fault
  | importAfterRoute
  | outsideRoute
  | usingOutsideDoes
  | fromOutsideUsing
  | valueAtTop
  | literalNotAllowed
  | extraValue
  | duplicateHandler
  | handlerNotLiteral
  | literalName
  | missingHandler
  | missingName
  deriving DecidableEq, Repr

/-- The wording of a rule that was broken. -/
def Fault.message : Fault → String
  | importAfterRoute => "IMPORT must come before the first ROUTE"
  | outsideRoute => "INCLUDES and DOES are only allowed inside of a ROUTE"
  | usingOutsideDoes => "USING is only allowed inside of a DOES"
  | fromOutsideUsing => "FROM can only appear inside of a USING"
  | valueAtTop => "values must be inside of an IMPORT or ROUTE"
  | literalNotAllowed => "literals are only allowed in DOES and USING"
  | extraValue => "no place for another value"
  | duplicateHandler => "DOES already has a handler"
  | handlerNotLiteral => "DOES requires a `literal` handler, not a string"
  | literalName => "USING requires a name that is not a literal"
  | missingHandler => "DOES requires a handler"
  | missingName => "a name is required"

/-- A violation: the rule, the mode it was broken in, and the token it is blamed on with its
place. -/
structure GrammarError where
  fault : Fault
  mode : Mode
  token : String
  position : Position
  deriving DecidableEq, Repr

/-- The wording of a violation. -/
def GrammarError.message (error : GrammarError) : String :=
  error.position.display ++ ": " ++ error.fault.message ++ " (in " ++ error.mode.display ++
    ", at " ++ error.token ++ ")"

end RouteDoc
