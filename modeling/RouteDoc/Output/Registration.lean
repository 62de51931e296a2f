import RouteDoc.Document
import RouteDoc.Text.Join

/-!
Rust code that registers the routes of a document. The code is one function that takes a registry
and makes one statement per route. Literals are pasted as they are and strings become string
literals. Imports that are paths become `use` items; any other import is kept as a string in a
constant, so that it cannot break the code.
-/

namespace RouteDoc.Registration

open Text

/-- The first line of generated code. -/
def header : String := "// This file is auto-generated by codl. Do not edit."

/-- Four spaces for each level, the text, and a line feed. -/
def line (depth : Nat) (text : String) : String :=
  String.ofList (List.replicate (4 * depth) ' ') ++ text ++ "\n"

/-- Words that cannot name anything in a path. `crate`, `self` and `super` may stand in one and are
not listed. -/
def reservedWords : List String := [
  "as", "async", "await", "box", "break", "const", "continue", "do", "dyn", "else", "enum",
  "extern", "false", "fn", "for", "if", "impl", "in", "let", "loop", "macro", "match", "mod",
  "move", "mut", "pub", "ref", "return", "static", "struct", "trait", "true", "try", "type",
  "unsafe", "use", "where", "while", "yield"]

/-- The segments between the `::` of a path, found from the left. There is always at least one. -/
def segments : List Char → List (List Char)
  | [] => [[]]
  | ':' :: ':' :: rest => [] :: segments rest
  | c :: rest =>
    match segments rest with
    | [] => [[c]]
    | first :: others => (c :: first) :: others

/-- Whether a character may start an identifier. -/
def startsIdentifier (c : Char) : Bool := c.isAlpha || c == '_'

/-- Whether a character may stand after the start of an identifier. -/
def continuesIdentifier (c : Char) : Bool := c.isAlphanum || c == '_'

/-- Whether a segment is an identifier: ASCII letters, digits and underscores, not starting with a
digit, not an underscore alone and not reserved. -/
def isIdentifier (segment : List Char) : Bool :=
  match segment with
  | [] => false
  | c :: rest =>
    startsIdentifier c && rest.all continuesIdentifier && segment != ['_'] &&
      !reservedWords.contains (String.ofList segment)

/-- Whether segments make a path: identifiers, the last of which may be a glob. -/
def isPath : List (List Char) → Bool
  | [] => true
  | [last] => isIdentifier last || last == ['*']
  | segment :: rest => isIdentifier segment && isPath rest

/-- Whether a text can follow `use` as it is. A glob does not stand alone. -/
def isUsePath (text : String) : Bool :=
  match segments text.toList with
  | [only] => isIdentifier only
  | several => isPath several

/-- Whether a text holds `::`. -/
def hasSeparator : List Char → Bool
  | [] => false
  | ':' :: ':' :: _ => true
  | _ :: rest => hasSeparator rest

/-- The characters before the first `::` of a reversed text. -/
def beforeSeparator : List Char → List Char
  | [] => []
  | ':' :: ':' :: _ => []
  | c :: rest => c :: beforeSeparator rest

/-- The name of the type that a path leads to: all after its last `::`. -/
def typeName (path : String) : String :=
  String.ofList (beforeSeparator path.toList.reverse).reverse

/-- A letter or digit of ASCII in lower case, an underscore for any other character. -/
def nameChar (c : Char) : Char := if c.isAlphanum then c.toLower else '_'

/-- The name of the function generated for a document. -/
def functionName (label : String) : String :=
  let name := match label.toList.map nameChar with
    | [] => "codl".toList
    | c :: rest => if c.isDigit then '_' :: c :: rest else c :: rest
  String.ofList name ++ "_routes"

/-- The code of a value, or of an empty string where there is none. -/
def codeOrEmpty : Option Value → String
  | some value => value.code
  | none => "\x22\x22"

/-- The call that includes another route. -/
def includesCall (name : Value) : String := ".includes(" ++ name.code ++ ")"

/-- The call that registers a handler. -/
def doesCall (invocation : Invoke) : String :=
  ".does(" ++ invocation.handler.code ++ ", " ++ codeOrEmpty invocation.name ++ ")"

/-- The call that gives a binding its default. -/
def defaultCall : Option Value → String
  | some value => ".with_default(" ++ value.code ++ ")"
  | none => ""

/-- The call that gives a binding one of its sources. -/
def sourceCall (source : Value) : String := ".from(" ++ source.code ++ ")"

/-- The calls that declare a binding. -/
def usingCall (param : Param) : String :=
  ".using(" ++ param.name.code ++ ")" ++ defaultCall param.default ++
    concat (param.sources.map sourceCall)

/-- The lines of a command with their levels. -/
def commandLines : Command → List (Nat × String)
  | .includes name => [(2, includesCall name)]
  | .invoke invocation =>
    (2, doesCall invocation) :: invocation.params.map fun param => (3, usingCall param)

/-- The lines of a route before the statement is ended. -/
def routeLines (route : Route) : List (Nat × String) :=
  (1, "reg.route(" ++ codeOrEmpty route.name ++ ", " ++ codeOrEmpty route.description ++ ")") ::
    route.commands.flatMap commandLines

/-- Writes lines, and a semicolon after the last one. -/
def statement : List (Nat × String) → String
  | [] => ""
  | [(depth, text)] => line depth (text ++ ";")
  | (depth, text) :: rest => line depth text ++ statement rest

/-- Whether an import is written as a `use` item. -/
def isUse (value : Value) : Bool := !value.isLiteral && isUsePath value.text

/-- The paths of the `use` items: the registry's, if it is a path, and those of the imports. -/
def usePaths (registry : String) (imports : List Value) : List String :=
  (if hasSeparator registry.toList then [registry] else []) ++
    (imports.filter isUse).map Value.text

/-- The `use` items, with an empty line after them if there are any. -/
def useItems (paths : List String) : String :=
  if paths.isEmpty then "" else
    concat (paths.map fun path => line 0 ("use " ++ path ++ ";")) ++ "\n"

/-- The constant that holds the imports that are no paths, if there are any. -/
def otherImports (values : List Value) : String :=
  if values.isEmpty then "" else
    line 0 ("pub const IMPORTS: &[&str] = &[" ++ separated ", " (values.map Value.code) ++ "];") ++
      "\n"

/-- The line that opens the function. -/
def signature (registry label : String) : String :=
  "pub fn " ++ functionName label ++ "(reg: &mut " ++ typeName registry ++ ") \x7b"

/-- The code for a document, given the path of the registry type. -/
def render (registry : String) (document : Document) : String :=
  line 0 header ++ "\n" ++
    useItems (usePaths registry document.imports) ++
    otherImports (document.imports.filter (!isUse ·)) ++
    line 0 (signature registry document.label) ++
    concat (document.routes.map fun route => statement (routeLines route)) ++
    line 0 "\x7d"

end RouteDoc.Registration
