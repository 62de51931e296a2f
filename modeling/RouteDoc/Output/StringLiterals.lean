import RouteDoc.Output.Registration
import RouteDoc.Text.Hexadecimal
import RouteDoc.Token.Scan

/-!
The string literals of generated code. A double quote starts a literal, which goes on to the next double
quote that has no backslash before it; everything outside of literals is code.
-/

namespace RouteDoc

namespace Code
open Text

/-- The character that is written as a backslash and one other character. -/
def shortEscape? : Char → Option Char
  | '0' => some '\x00'
  | 't' => some '\t'
  | 'n' => some '\n'
  | 'r' => some '\r'
  | '\x22' => some '\x22'
  | '\x27' => some '\x27'
  | '\\' => some '\\'
  | _ => none

/-- The character whose code point is written with one to six digits. -/
def codePoint? (digits : List Char) : Option Char :=
  if 1 ≤ digits.length ∧ digits.length ≤ 6 then (readCodePoint digits.length digits).map Prod.fst else none

/-- The text that stands between the quotes of a literal, if every backslash in it starts an escape. -/
def decode? (cs : List Char) : Option (List Char) :=
  match cs with
  | [] => some []
  | '\\' :: 'u' :: '\x7b' :: cs =>
    match _found : cutAt? '\x7d' cs with
    | none => none
    | some (digits, rest) => do return (← codePoint? digits) :: (← decode? rest)
  | '\\' :: c :: cs => do return (← shortEscape? c) :: (← decode? cs)
  | ['\\'] => none
  | c :: cs => (decode? cs).map (c :: ·)
termination_by cs.length
decreasing_by
  · have := length_cutAt? _found
    simp only [List.length_cons]
    omega
  all_goals
    simp only [List.length_cons]
    omega

/-- Code with the texts of its literals taken out of it. -/
structure Reading where
  literals : List String
  blanked : List Char
  deriving DecidableEq, Repr

/-- Reads code from left to right. A literal that does not end or does not decode stops the reading. -/
def read (cs : List Char) : Option Reading :=
  match cs with
  | [] => some ⟨[], []⟩
  | c :: cs =>
    if c = '\x22' then
      match _found : Scan.untilQuote '\x22' cs with
      | none => none
      | some (body, rest) => do
        let text ← decode? body
        let later ← read rest
        return ⟨String.ofList text :: later.literals, '\x22' :: '\x22' :: later.blanked⟩
    else (read cs).map fun later => ⟨later.literals, c :: later.blanked⟩
termination_by cs.length
decreasing_by
  · have := Scan.length_untilQuote _found
    simp only [List.length_cons]
    omega
  · simp

/-- The texts of the string literals in code, in their order. -/
def literals? (code : String) : Option (List String) := (read code.toList).map Reading.literals

/-- Code with an empty literal in the place of each literal. -/
def blanked? (code : String) : Option String := (read code.toList).map fun reading => String.ofList reading.blanked

end Code

/-! The texts that are written as string literals. -/

/-- The text of a value, empty where there is none. -/
def Value.textOrEmpty : Option Value → String
  | some value => value.text
  | none => ""

/-- The name of a binding, its default if that is a string, and its sources. -/
def Param.texts (param : Param) : List String :=
  param.name.text :: ((param.default.toList.filter (!·.isLiteral) ++ param.sources).map Value.text)

/-- The name of an include, or the name shown for a handler and the texts of the bindings. -/
def Command.texts : Command → List String
  | .includes name => [name.text]
  | .invoke invocation => Value.textOrEmpty invocation.name :: invocation.params.flatMap Param.texts

/-- The name and description of a route, and the texts of its commands. -/
def Route.texts (route : Route) : List String :=
  Value.textOrEmpty route.name :: Value.textOrEmpty route.description :: route.commands.flatMap Command.texts

/-- The imports that are no paths, and the texts of the routes. -/
def Registration.texts (document : Document) : List String :=
  (document.imports.filter (!isUse ·)).map Value.text ++ document.routes.flatMap Route.texts

end RouteDoc
