import RouteDoc.Grammar.Builder
import RouteDoc.Token.Scan

/-!
From a source text to a document. Tokens are handed to the builder as they are read, so the first
failure in the order of the source is the one that is reported.
-/

namespace RouteDoc

/-- Why a source has no document. -/
inductive ParseError
  | scan (error : ScanError)
  | grammar (error : GrammarError)
  deriving DecidableEq, Repr

namespace ParseError

/-- The place that an error refers to. -/
def position? : ParseError → Option Position
  | scan error => error.position?
  | grammar error => some error.position

/-- The wording of a parse error. -/
def message : ParseError → String
  | scan error => error.message
  | grammar error => error.message

end ParseError

/-- The tokens of a scan with the places they start at. -/
def Scan.placed (scan : Scan) (lineMap : LineMap) : List (Token × Position) :=
  scan.lexemes.map fun lexeme => (lexeme.token, lineMap.position lexeme.start)

/-- The document of a source. A token that is refused comes before an unclosed delimiter, and both
come before a part that is unfinished at the end. -/
def parse (source label : String) (dialect : Dialect) : Except ParseError Document :=
  let lineMap := LineMap.ofText source
  let scan := Scan.ofText source
  match (Builder.new label dialect).feedAll (scan.placed lineMap) with
  | .error error => .error (.grammar error)
  | .ok builder =>
    match scan.unclosed with
    | some unclosed => .error (.scan (unclosed.error lineMap))
    | none =>
      match builder.finish with
      | .error error => .error (.grammar error)
      | .ok document => .ok document

/-- Where a document can be read from: all the bytes it delivers, and the reason why it broke off
after them, if it did. -/
structure Reader where
  bytes : ByteArray
  broken : Option String := none

/-- The whole text that a reader delivers. Nothing is kept of what came before a failure. -/
def Reader.text (reader : Reader) : Except ScanError String :=
  match reader.broken with
  | some reason => .error (.unreadable (.broken reason))
  | none => readSource reader.bytes

/-- The document of the source that a reader delivers. It is read whole before any token is. -/
def parseReader (reader : Reader) (label : String) (dialect : Dialect) :
    Except ParseError Document :=
  match reader.text with
  | .error error => .error (.scan error)
  | .ok source => parse source label dialect

end RouteDoc
