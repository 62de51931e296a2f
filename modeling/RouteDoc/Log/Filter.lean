import RouteDoc.Log
import RouteDoc.Number.Decimal
import RouteDoc.Number.Word64
import RouteDoc.Text.Alphanumeric
import RouteDoc.Text.Blank
import RouteDoc.Text.RegularExpression
import RouteDoc.Text.Split

/-!
Which events reach the log. Rules say from which level on the events of a part of the program are
logged; for every event the most specific rule that is for it decides. Rules are written between
commas, as `target[span{field=value}]=level`, and all parts but one may be left out.
-/

namespace RouteDoc

open Text

/-- The least important level that is still logged; without one nothing is. -/
abbrev Threshold := Option Level

/-- Whether a level reaches a threshold. -/
def Threshold.admits (threshold : Threshold) (level : Level) : Bool :=
  match threshold with
  | none => false
  | some least => least.rank ≤ level.rank

/-- The threshold that a number or a word in any case names. -/
def Threshold.ofWord? (word : List Char) : Option Threshold :=
  match word64? (String.ofList word), String.ofList (word.map Char.toLower) with
  | some 0, _ | none, "off" => some none
  | some 1, _ | none, "error" => some (some .error)
  | some 2, _ | none, "warn" => some (some .warn)
  | some 3, _ | none, "info" => some (some .info)
  | some 4, _ | none, "debug" => some (some .debug)
  | some 5, _ | none, "trace" => some (some .trace)
  | _, _ => none

/-- A threshold for the events whose origin starts with the target and that have the field, as far
as these are given. A rule that is `narrowed` is only for events inside of a span, or with a certain
value in a field; no event is inside of a span, and values do not count for events. -/
structure LogRule where
  target : Option String
  field : Option String
  narrowed : Bool
  threshold : Threshold
  deriving DecidableEq, Repr

namespace LogRule

/-- A rule for all events. -/
def forAll (threshold : Threshold) : LogRule := ⟨none, none, false, threshold⟩

/-- Whether an event has a field: one of its details, shown or not, or what happened. -/
def hasField (event : Event) (field : String) : Bool :=
  field == "message" || event.details.any (·.1 == field)

/-- Whether a rule is for an event. -/
def isFor (rule : LogRule) (event : Event) : Bool :=
  !rule.narrowed && rule.target.all (fun target => target.toList.isPrefixOf event.origin.toList) &&
    rule.field.all (hasField event)

/-- The length of the target of a rule. -/
def reach (rule : LogRule) : Nat := (rule.target.getD "").length

/-- Whether one of two rules for the same event is more specific: it has the longer target, or else
a field that the other one has not. Among fields, the last in the order of texts comes first. -/
def outranks (first second : LogRule) : Bool :=
  if first.reach = second.reach then
    match first.field, second.field with
    | some field, some other => decide (other < field)
    | some _, none => true
    | none, _ => false
  else second.reach < first.reach

/-- Of two rules for the same event, the one that decides. Of two alike it is the later one. -/
def stronger (earlier later : LogRule) : LogRule :=
  if earlier.outranks later then earlier else later

/-- The rule that decides about an event. -/
def deciding? (rules : List LogRule) (event : Event) : Option LogRule :=
  match rules.filter (·.isFor event) with
  | [] => none
  | first :: rest => some (rest.foldl stronger first)

/-- The parts of a rule as they are written: the target, the span and the field between brackets,
and the word after the equals sign. -/
structure Parts where
  target : List Char
  scope : Option (List Char × Option (List Char))
  word : Option (List Char)

/-- Whether a character may be the first of a rule. -/
def isStart (c : Char) : Bool := c == '[' || c == '-' || c == ':' || c == '_' || isAlphanumeric c

/-- Reads a span, with or without a field in braces, after the opening bracket. -/
def readScope (cs : List Char) : Option ((List Char × Option (List Char)) × List Char) :=
  let isInside (c : Char) : Bool := c != ']' && c != '\x7b'
  let span := cs.takeWhile isInside
  match cs.dropWhile isInside with
  | ']' :: rest => some ((span, none), rest)
  | '\x7b' :: rest =>
    match cutAt? '\x7d' rest with
    | some (c :: field, ']' :: after) => some ((span, some (c :: field)), after)
    | _ => none
  | _ => none

/-- Reads the parts of a rule. After the scope, blanks may stand at the end only. -/
def readParts (cs : List Char) : Option Parts :=
  let isTarget (c : Char) : Bool := c != '=' && c != '['
  let target := cs.takeWhile isTarget
  match cs.dropWhile isTarget with
  | '=' :: word => some ⟨target, none, some word⟩
  | '[' :: rest =>
    match readScope rest with
    | some (scope, '=' :: word) => some ⟨target, some scope, some word⟩
    | some (scope, after) => if after.all isBlank then some ⟨target, some scope, none⟩ else none
    | none => none
  | _ => some ⟨target, none, none⟩

/-- Whether a scope asks for a span or for a value. Brackets without a field ask for a span, even
for one without a name. -/
def isNarrow : List Char × Option (List Char) → Bool
  | (_, none) => true
  | (span, some field) => !span.isEmpty || field.contains '='

/-- Whether values can be compared with what is written after the equals sign: a regular expression,
or a number, which may have a plus sign. -/
def isComparable (value : List Char) : Bool :=
  isRegularExpression value || match value with
    | '+' :: number => isDecimal number ||
        ["inf", "infinity", "nan"].contains (String.ofList (number.map Char.toLower))
    | _ => false

/-- Whether a field is well formed. A second equals sign ends its value. -/
def isField (field : List Char) : Bool :=
  match pieces '=' field with
  | _ :: value :: _ => isComparable value
  | _ => true

/-- The rule that is made up of some parts. A target alone is a level, if it is the word for one, and
asks for all events otherwise. -/
def ofParts? (parts : Parts) : Option LogRule :=
  match parts.scope, parts.word with
  | none, none =>
    match Threshold.ofWord? parts.target with
    | some threshold => some (forAll threshold)
    | none => some ⟨some (String.ofList parts.target), none, false, some .trace⟩
  | scope, word =>
    let target := if parts.target = [] then none else some (String.ofList parts.target)
    let field := (scope.bind Prod.snd).map String.ofList
    let narrowed := scope.any isNarrow
    let threshold : Option Threshold := match word with
      | none | some [] => some (some .trace)
      | some word => Threshold.ofWord? word
    if (scope.bind Prod.snd).all isField then
      threshold.map fun threshold => ⟨target, field, narrowed, threshold⟩
    else none

/-- The field of a rule with blanks in front, which is looked for where it would be without them. -/
def displacedField (text : List Char) (parts : Parts) : List Char :=
  match parts.scope with
  | some (span, some field) => (text.drop (parts.target.length + span.length + 2)).take field.length
  | _ => []

/-- A rule as it is written. Blanks in front belong to the first part, so that such a rule is for no
event; it cannot have a level then. -/
def ofText? (text : List Char) : Option LogRule :=
  match text.dropWhile isBlank with
  | [] => none
  | c :: rest =>
    if !isStart c then none
    else match readParts (c :: rest) with
      | none => none
      | some parts =>
        if text.head? = some c then ofParts? parts
        else if parts.word = none ∧ isField (displacedField text parts) then
          some ⟨none, none, true, none⟩
        else none

end LogRule

/-- What decides which events are logged. -/
abbrev LogFilter := List LogRule

namespace LogFilter

/-- Whether an event reaches the log. An event that no rule is for does not. -/
def admits (filter : LogFilter) (event : Event) : Bool :=
  match LogRule.deciding? filter event with
  | none => false
  | some rule => rule.threshold.admits event.level

/-- The text of the log: a line for each event that reaches it. -/
def log (filter : LogFilter) (events : List Event) : String :=
  concat ((events.filter filter.admits).map Event.line)

/-- The filter that a text asks for: rules between commas. If one of them is not well formed, there
is no filter. -/
def ofText? (text : String) : Option LogFilter :=
  ((pieces ',' text.toList).filter (· != [])).mapM LogRule.ofText?

/-- The filter of a run: what the environment asks for, or else all events from `debug` on if the
run is to be verbose, and from `info` on if it is not. -/
def choose (environment : Option String) (verbose : Bool) : LogFilter :=
  (environment.bind ofText?).getD [.forAll (some (if verbose then .debug else .info))]

end LogFilter

end RouteDoc
