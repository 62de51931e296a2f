import RouteDoc.Translate

/-!
Showing what is in a source file: its tokens, or what it would be translated to. Nothing is written.
-/

namespace RouteDoc

open Text

/-- The name that asks for tokens in place of a format. -/
def tokensName : String := "tokens"

/-- The tokens of a scan, one on each line, after the places where they start. -/
def Scan.listing (scan : Scan) (lineMap : LineMap) : String :=
  concat (scan.lexemes.map fun lexeme =>
    (lineMap.position lexeme.start).display ++ "\t" ++ lexeme.token.display ++ "\n")

/-- The tokens of a source file. A delimiter that is not closed is an error. -/
def listTokens (tree : FileTree) (path : Path) : Except SourceError String :=
  match tree.readText path with
  | .error error => .error (.unread path error)
  | .ok text =>
    let lineMap := LineMap.ofText text
    let scan := Scan.ofText text
    match scan.unclosed with
    | some unclosed => .error (.unscanned path (unclosed.error lineMap))
    | none => .ok (scan.listing lineMap)

/-- What a source file is shown as: its tokens if they are asked for by name, or else its
rendering. -/
def Translator.inspect (translator : Translator) (tree : FileTree) (path : Path) (shown : String) :
    Except SourceError String :=
  if shown = tokensName then listTokens tree path else translator.rendering tree path

/-- The events of showing a source file. -/
def Translator.inspectEvents (translator : Translator) (tree : FileTree) (path : Path)
    (shown : String) : List Event :=
  if shown = tokensName then
    match tree.readText path with
    | .error _ => []
    | .ok text => (Scan.ofText text).lexemes.map .scanned
  else translator.renderingEvents tree path

end RouteDoc
