import RouteDoc.Token
import RouteDoc.Value

/-!
The document that a source describes: imports, and routes made of commands. Everything stands in
the order of the source.
-/

namespace RouteDoc

/-- A `USING` binding: a name, a default, and the `FROM` sources that the value is taken from. -/
structure Param where
  name : Value
  default : Option Value := none
  sources : List Value := []
  deriving DecidableEq, Repr

/-- A `DOES` command: a handler, the name shown for it, and its bindings. -/
structure Invoke where
  handler : Value
  name : Option Value := none
  params : List Param := []
  deriving DecidableEq, Repr

/-- What a route does: it includes another route by name, or invokes a handler. -/
inductive Command
  | includes (name : Value)
  | invoke (invocation : Invoke)
  deriving DecidableEq, Repr

namespace Command

/-- The keyword that opens a command. -/
def keyword : Command → Keyword
  | includes _ => .includesWord
  | invoke _ => .doesWord

/-- The name of the route that an include refers to. -/
def include? : Command → Option Value
  | includes name => some name
  | invoke _ => none

/-- The invocation, if the command is one. -/
def invoke? : Command → Option Invoke
  | includes _ => none
  | invoke invocation => some invocation

end Command

/-- A route: a named and described group of commands. -/
structure Route where
  name : Option Value := none
  description : Option Value := none
  commands : List Command := []
  deriving DecidableEq, Repr

/-- A whole document. Its name comes from outside of the source, usually from the name of the
file. -/
structure Document where
  label : String
  imports : List Value := []
  routes : List Route := []
  deriving DecidableEq, Repr

/-- Whether a document has neither imports nor routes. -/
def Document.isEmpty (document : Document) : Bool :=
  document.imports.isEmpty && document.routes.isEmpty

end RouteDoc
