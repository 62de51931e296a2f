import RouteDoc.Keyed
import RouteDoc.Number.Binary64

/-!
TOML values, and the rules by which the lines of a file build its tables. A table is defined once:
by a header, by dotted keys, or as an inline value. Headers may be added below a table but never
reopen one, and nothing is added to an inline value.
-/

namespace RouteDoc

/-- A single value. Dates and times are texts. -/
inductive Scalar
  | text (content : String)
  | whole (number : Int)
  | real (number : Binary64)
  | flag (value : Bool)
  deriving DecidableEq, Repr

/-- A TOML value. The keys of a table keep their order. -/
inductive Toml
  | single (value : Scalar)
  | list (items : List Toml)
  | table (fields : List (String × Toml))

namespace Toml

/-- How a table came to be: by its own header, because a header below it was seen, by dotted keys,
or as an inline value. -/
inductive Origin
  | header
  | passing
  | dotted
  | inline
  deriving DecidableEq, Repr

/-- A part of a file that is still being read: a finished value, a table that lines may be added to,
or the tables of an array that is written one header at a time. -/
inductive Node
  | value (content : Toml)
  | table (origin : Origin) (fields : List (String × Node))
  | tables (items : List (List (String × Node)))

/-- The fields of a table under construction. -/
abbrev Fields := List (String × Node)

namespace Fields

/-- The field of a key. -/
def get? (fields : Fields) (key : String) : Option Node :=
  Keyed.get? fields key

/-- Replaces the field of a key, or adds it at the end. -/
def set (fields : Fields) (key : String) (node : Node) : Fields :=
  if fields.any (·.1 == key) then
    fields.map fun field => if field.1 == key then (key, node) else field
  else fields ++ [(key, node)]

/-- Changes the last table of an array. -/
def changeLast (items : List Fields) (change : Fields → Option Fields) : Option (List Fields) :=
  match items.getLast? with
  | none => none
  | some last => (change last).map fun changed => items.dropLast ++ [changed]

/-- Adds a value by a dotted key to a table of the given origin. Tables on the way are made as they
are needed; one that a header or an inline value defined is not extended, and the last one has to
be made by dotted keys. -/
def insert (node : Node) (origin : Option Origin) (fields : Fields) : List String → Option Fields
  | [] => none
  | [key] =>
    if (origin == none || origin == some .dotted) && (fields.get? key).isNone then
      some (fields.set key node)
    else none
  | key :: rest =>
    match fields.get? key with
    | none => (insert node (some .dotted) [] rest).map fun inner => fields.set key (.table .dotted inner)
    | some (.value _) => none
    | some (.table .header _) | some (.table .inline _) => none
    | some (.table inner below) =>
      (insert node (some inner) below rest).map fun changed => fields.set key (.table inner changed)
    | some (.tables items) =>
      (changeLast items fun last => insert node (some .header) last rest).map fun changed =>
        fields.set key (.tables changed)

/-- Changes the table at the end of a path of keys, passing through the last table of any array on
the way. Tables that are not there yet are made in passing; inline values are not entered. -/
def change (action : Fields → Option Fields) (fields : Fields) : List String → Option Fields
  | [] => action fields
  | key :: rest =>
    match fields.get? key with
    | none => (change action [] rest).map fun below => fields.set key (.table .passing below)
    | some (.value _) | some (.table .inline _) => none
    | some (.table origin below) =>
      (change action below rest).map fun changed => fields.set key (.table origin changed)
    | some (.tables items) =>
      (changeLast items fun last => change action last rest).map fun changed =>
        fields.set key (.tables changed)

/-- Opens a table by its header. Only a table that was passed on the way to another may be there
already. -/
def openTable (fields : Fields) (path : List String) : Option Fields :=
  match path.getLast? with
  | none => none
  | some key =>
    change (fun parent =>
      match parent.get? key with
      | none => some (parent.set key (.table .header []))
      | some (.table .passing below) => some (parent.set key (.table .header below))
      | some _ => none) fields path.dropLast

/-- Adds a table to an array by its header. -/
def openArray (fields : Fields) (path : List String) : Option Fields :=
  match path.getLast? with
  | none => none
  | some key =>
    change (fun parent =>
      match parent.get? key with
      | none => some (parent.set key (.tables [[]]))
      | some (.tables items) => some (parent.set key (.tables (items ++ [[]])))
      | some _ => none) fields path.dropLast

end Fields

mutual

/-- The value of a part that is read to its end. -/
def Node.finish : Node → Toml
  | .value content => content
  | .table _ fields => .table (finishFields fields)
  | .tables items => .list (finishTables items)

/-- The fields of a table that is read to its end. -/
def finishFields : List (String × Node) → List (String × Toml)
  | [] => []
  | (key, node) :: rest => (key, node.finish) :: finishFields rest

/-- The tables of an array that is read to its end. -/
def finishTables : List (List (String × Node)) → List Toml
  | [] => []
  | fields :: rest => .table (finishFields fields) :: finishTables rest

end

end Toml

end RouteDoc
