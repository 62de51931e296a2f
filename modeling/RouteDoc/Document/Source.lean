import RouteDoc.Document

/-!
Documents written as source text. Every token has one plain spelling, and the tokens of a document
stand in the order in which its parts are kept, with single spaces between them.
-/

namespace RouteDoc

/-- The token that a value is written as. -/
def Value.token : Value → Token
  | literal text => .literal text
  | string text => .string text

namespace Token

/-- A character inside of double quotes. -/
def escape (c : Char) : List Char := if c = '\x22' ∨ c = '\\' then ['\\', c] else [c]

/-- A token as source text: literals stand between backticks, or between guillemets if they hold a
backtick; strings stand between double quotes. -/
def spelling : Token → List Char
  | keyword word => word.text.toList
  | literal text =>
    if '\x60' ∈ text.toList then '«' :: (text.toList ++ ['»'])
    else '\x60' :: (text.toList ++ ['\x60'])
  | string text => '\x22' :: (text.toList.flatMap escape ++ ['\x22'])

end Token

/-- The token that a handler is written as. A literal that could close either pair of delimiters
is written as a string. -/
def Invoke.handlerToken (invoke : Invoke) : Token :=
  let held := invoke.handler.text.toList
  if '\x60' ∈ held ∧ '»' ∈ held then .string invoke.handler.text else invoke.handler.token

/-- The tokens of a binding. -/
def Param.tokens (param : Param) : List Token :=
  .keyword .usingWord :: param.name.token :: (param.default.toList.map Value.token ++
    if param.sources = [] then [] else .keyword .fromWord :: param.sources.map Value.token)

/-- The tokens of an invocation. -/
def Invoke.tokens (invoke : Invoke) : List Token :=
  .keyword .doesWord :: invoke.handlerToken :: (invoke.name.toList.map Value.token ++
    invoke.params.flatMap Param.tokens)

/-- The tokens of a command. -/
def Command.tokens : Command → List Token
  | includes name => [.keyword .includesWord, name.token]
  | invoke invocation => invocation.tokens

/-- The tokens of a route. -/
def Route.tokens (route : Route) : List Token :=
  .keyword .routeWord :: (route.name.toList.map Value.token ++
    route.description.toList.map Value.token ++ route.commands.flatMap Command.tokens)

/-- The tokens of a document. -/
def Document.tokens (document : Document) : List Token :=
  (if document.imports = [] then [] else
    .keyword .importWord :: document.imports.map Value.token) ++
    document.routes.flatMap Route.tokens

/-- A document as source text. -/
def Document.source (document : Document) : String :=
  String.ofList ([' '].intercalate (document.tokens.map Token.spelling))

end RouteDoc
