import RouteDoc.Document
import RouteDoc.Grammar.Fault

/-!
The open parts of a document under construction: at most one route, one command in it, and one
binding in that. Each holds its own values until it is closed; closing checks that nothing it
needs is absent. The innermost part is always closed first. While a part is open, its lists hold the
latest item first.
-/

namespace RouteDoc

/-- A part that could not be closed because a value it needs never came. It is blamed on the
keyword that opened it. -/
structure Unfinished where
  fault : Fault
  keyword : Keyword
  openedAt : Position
  deriving DecidableEq, Repr

/-- An open `USING` binding. -/
structure ParamFrame where
  openedAt : Position
  name : Option Value := none
  default : Option Value := none
  sources : List Value := []
  deriving DecidableEq, Repr

/-- An open `DOES` command, with the bindings closed so far and the open one. -/
structure InvokeFrame where
  openedAt : Position
  handler : Option Value := none
  name : Option Value := none
  params : List Param := []
  param : Option ParamFrame := none
  deriving DecidableEq, Repr

/-- An open `INCLUDES` command. -/
structure IncludeFrame where
  openedAt : Position
  name : Option Value := none
  deriving DecidableEq, Repr

/-- An open command. -/
inductive CommandFrame
  | includes (frame : IncludeFrame)
  | invoke (frame : InvokeFrame)
  deriving DecidableEq, Repr

/-- An open route, with the commands closed so far and the open one. -/
structure RouteFrame where
  name : Option Value := none
  description : Option Value := none
  commands : List Command := []
  command : Option CommandFrame := none
  deriving DecidableEq, Repr

/-- A binding is complete once it has a name. -/
def ParamFrame.close (frame : ParamFrame) : Except Unfinished Param :=
  match frame.name with
  | none => .error ⟨.missingName, .usingWord, frame.openedAt⟩
  | some name => .ok ⟨name, frame.default, frame.sources.reverse⟩

namespace InvokeFrame

/-- Moves the open binding, if there is one, to the closed ones. -/
def closeParam (frame : InvokeFrame) : Except Unfinished InvokeFrame :=
  match frame.param with
  | none => .ok frame
  | some open_ => open_.close.map fun param =>
      { frame with params := param :: frame.params, param := none }

/-- Opens a binding after closing the one before it. -/
def openParam (frame : InvokeFrame) (place : Position) : Except Unfinished InvokeFrame :=
  frame.closeParam.map fun closed => { closed with param := some { openedAt := place } }

/-- A command is complete once its last binding is and it has a handler. -/
def close (frame : InvokeFrame) : Except Unfinished Invoke :=
  match frame.closeParam with
  | .error unfinished => .error unfinished
  | .ok closed =>
    match closed.handler with
    | none => .error ⟨.missingHandler, .doesWord, frame.openedAt⟩
    | some handler => .ok ⟨handler, closed.name, closed.params.reverse⟩

end InvokeFrame

/-- An include is complete once it has a name. -/
def IncludeFrame.close (frame : IncludeFrame) : Except Unfinished Value :=
  match frame.name with
  | none => .error ⟨.missingName, .includesWord, frame.openedAt⟩
  | some name => .ok name

/-- The command that an open command becomes. -/
def CommandFrame.close : CommandFrame → Except Unfinished Command
  | .includes frame => frame.close.map Command.includes
  | .invoke frame => frame.close.map Command.invoke

namespace RouteFrame

/-- Moves the open command, if there is one, to the closed ones. -/
def closeCommand (frame : RouteFrame) : Except Unfinished RouteFrame :=
  match frame.command with
  | none => .ok frame
  | some open_ => open_.close.map fun command =>
      { frame with commands := command :: frame.commands, command := none }

/-- Opens a command after closing the one before it. -/
def openCommand (frame : RouteFrame) (command : CommandFrame) : Except Unfinished RouteFrame :=
  frame.closeCommand.map fun closed => { closed with command := some command }

/-- A route is complete once its last command is; a name is not needed. -/
def close (frame : RouteFrame) : Except Unfinished Route :=
  frame.closeCommand.map fun closed => ⟨closed.name, closed.description, closed.commands.reverse⟩

end RouteFrame

end RouteDoc
