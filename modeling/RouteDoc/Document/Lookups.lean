import RouteDoc.Document.Check

/-!
Where checks look. A check of a numbered part asks for the part whether it is there or not. The lookups of a
run stand in the order in which they are made, and a run that ends early makes no more of them.
-/

namespace RouteDoc

namespace Check

/-- A numbered part that a check asks for, and how many parts there are. -/
structure Lookup where
  context : String
  what : String
  index : Nat
  available : Nat
  deriving DecidableEq, Repr

namespace Lookup

/-- The part is there. -/
def Inside (lookup : Lookup) : Prop := lookup.index < lookup.available

instance (lookup : Lookup) : Decidable lookup.Inside :=
  inferInstanceAs (Decidable (lookup.index < lookup.available))

/-- The failure of a check whose part is not there. -/
def failure (lookup : Lookup) : Failure :=
  ⟨lookup.context, .outOfBounds lookup.what lookup.index lookup.available⟩

end Lookup

/-- The lookup of a numbered part, and the lookups in that part if it is there. -/
def partLookups {α : Type} (context what : String) (parts : List α) (index : Nat)
    (lookups : String → α → List Lookup) : List Lookup :=
  ⟨context, what, index, parts.length⟩ ::
    match parts[index]? with
    | none => []
    | some part => lookups (within context what index) part

/-- The lookups of checks in order, up to the first that fails. -/
def sequenceLookups {α : Type} (run : α → Report) (lookups : α → List Lookup) : List α → List Lookup
  | [] => []
  | check :: rest =>
    lookups check ++ if (run check).failure = none then sequenceLookups run lookups rest else []

/-- The lookups of a check of an invocation. In a binding nothing is numbered. -/
def invokeLookups (context : String) (invoke : Invoke) : InvokeCheck → List Lookup
  | .param index _ => partLookups context "param" invoke.params index fun _ _ => []
  | _ => []

/-- The lookups of a check of a command. -/
def commandLookups (context : String) (command : Command) : CommandCheck → List Lookup
  | .includes _ => []
  | .invoke checks =>
    match command with
    | .invoke part => sequenceLookups (invoke context part) (invokeLookups context part) checks
    | .includes _ => []

/-- The lookups of a check of a route. -/
def routeLookups (context : String) (route : Route) : RouteCheck → List Lookup
  | .command index check =>
    partLookups context "command" route.commands index fun inner part => commandLookups inner part check
  | _ => []

/-- The lookups of a check of a document. -/
def documentLookups (document : Document) : DocumentCheck → List Lookup
  | .import_ index _ => partLookups "document" "import" document.imports index fun _ _ => []
  | .route index checks =>
    partLookups "document" "route" document.routes index fun inner part =>
      sequenceLookups (route inner part) (routeLookups inner part) checks
  | _ => []

end Check

/-- The lookups that are made when checks of a document run in order. -/
def Document.lookups (document : Document) (checks : List DocumentCheck) : List Check.Lookup :=
  Check.sequenceLookups (Check.document document) (Check.documentLookups document) checks

end RouteDoc
