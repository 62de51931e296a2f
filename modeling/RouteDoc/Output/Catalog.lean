import RouteDoc.Output.Format

/-!
Catalogs by their history: the formats that were registered, one after another, in a catalog that was
empty or had the built-in formats. A sink is what formats write to; it takes a text whole or not at all.
-/

namespace RouteDoc

/-- Whether a format is the last one of its name. -/
def Format.IsLatest (format : Format) (registered : List Format) : Prop :=
  ∃ earlier later, registered = earlier ++ format :: later ∧ ∀ other ∈ later, other.name ≠ format.name

namespace Catalog

/-- The catalogs that registrations start from. -/
inductive Start
  | empty
  | defaults
  deriving DecidableEq, Repr

/-- The catalog at the start. -/
def Start.catalog : Start → Catalog
  | empty => .empty
  | defaults => .defaults

/-- The formats that are in a catalog from the start. -/
def Start.formats : Start → List Format
  | empty => []
  | defaults => [.rust Format.defaultRegistry, .json]

end Catalog

/-- What texts are written to: those that it took so far, and the reason for which it refuses a text now, if
it does. -/
structure Sink where
  taken : List String
  refusal? : String → Option String

namespace Sink

/-- Writes a text at once. -/
def take (sink : Sink) (text : String) : Except String Sink :=
  match sink.refusal? text with
  | some reason => .error reason
  | none => .ok { sink with taken := sink.taken ++ [text] }

/-- The sink after something was written to it, or refused. -/
def after (sink : Sink) : Except RenderError Sink → Sink
  | .ok later => later
  | .error _ => sink

end Sink

end RouteDoc
