import RouteDoc.Settings.Toml.DateTime

/-!
Reading a TOML file. Nothing is gained from a file that is not well formed, so a reader gives
nothing at the first fault.
-/

namespace RouteDoc.Toml

/-- Drops blanks within a line. -/
def dropBlanks (cs : List Char) : List Char := cs.dropWhile fun c => c = ' ' || c = '\t'

/-- Drops a comment up to the end of its line, if one starts here. -/
def dropComment (cs : List Char) : List Char :=
  match cs with
  | '#' :: rest => rest.dropWhile isPlain
  | _ => cs

/-- Goes on after the end of a line: nothing but blanks and a comment may stand before it. -/
def endLine (cs : List Char) : Option (List Char) :=
  match dropComment (dropBlanks cs) with
  | [] => some []
  | '\n' :: rest | '\r' :: '\n' :: rest => some rest
  | _ => none

/-- Drops blanks, comments and line ends between the items of a list. -/
def dropLayout (fuel : Nat) (cs : List Char) : List Char :=
  match fuel with
  | 0 => cs
  | fuel + 1 =>
    match dropComment (dropBlanks cs) with
    | '\n' :: rest | '\r' :: '\n' :: rest => dropLayout fuel rest
    | rest => rest

/-- Reads one part of a key: a word, or a string on one line. -/
def readKeyPart (cs : List Char) : Option (String × List Char) :=
  match cs with
  | '\x22' :: rest => (readBasic (rest.length + 1) rest).map fun (key, after) => (String.ofList key, after)
  | '\x27' :: rest => (readVerbatim rest).map fun (key, after) => (String.ofList key, after)
  | _ =>
    match cs.takeWhile isKeyChar with
    | [] => none
    | key => some (String.ofList key, cs.dropWhile isKeyChar)

/-- The most parts that a key can have, and the most lists and inline tables that can stand inside
of one another. -/
def deepest : Nat := 79

/-- Reads a key of at most `most` parts, with dots between them and blanks around each. -/
def readKeyParts (most : Nat) (cs : List Char) : Option (List String × List Char) :=
  match most with
  | 0 => none
  | most + 1 => do
    let (part, after) ← readKeyPart (dropBlanks cs)
    match dropBlanks after with
    | '.' :: rest =>
      let (others, last) ← readKeyParts most rest
      return (part :: others, last)
    | rest => return ([part], rest)

/-- Reads a key. -/
def readKey (cs : List Char) : Option (List String × List Char) := readKeyParts deepest cs

mutual

/-- Reads a value in which at most `depth` lists and inline tables stand inside of one another.
`fuel` bounds the number of values and items on any way through the text. -/
def readValue (depth fuel : Nat) (cs : List Char) : Option (Node × List Char) :=
  match fuel with
  | 0 => none
  | fuel + 1 =>
    match cs with
    | '[' :: rest =>
      if depth = 0 then none
      else do
        let (items, after) ← readItems (depth - 1) fuel (dropLayout rest.length rest)
        return (.value (.list items), after)
    | '\x7b' :: rest =>
      if depth = 0 then none
      else match dropBlanks rest with
        | '\x7d' :: after => some (.table .inline [], after)
        | start => do
          let (fields, after) ← readFields (depth - 1) fuel [] start
          return (.table .inline fields, after)
    | '\x22' :: _ | '\x27' :: _ => do
      let (content, after) ← readString cs
      return (.value (.single (.text content)), after)
    | _ => do
      let (value, after) ← (readDateTime cs).or (readWord cs)
      return (.value (.single value), after)

/-- Reads the items of a list up to its closing bracket; a comma may follow the last one. -/
def readItems (depth fuel : Nat) (cs : List Char) : Option (List Toml × List Char) :=
  match fuel with
  | 0 => none
  | fuel + 1 =>
    match cs with
    | ']' :: rest => some ([], rest)
    | _ => do
      let (item, after) ← readValue depth fuel cs
      match dropLayout after.length after with
      | ',' :: rest =>
        let (items, last) ← readItems depth fuel (dropLayout rest.length rest)
        return (item.finish :: items, last)
      | ']' :: rest => return ([item.finish], rest)
      | _ => none

/-- Reads the fields of an inline table up to its closing brace. -/
def readFields (depth fuel : Nat) (fields : Fields) (cs : List Char) :
    Option (Fields × List Char) :=
  match fuel with
  | 0 => none
  | fuel + 1 => do
    let (key, after) ← readKey cs
    match after with
    | '=' :: rest =>
      let (value, last) ← readValue depth fuel (dropBlanks rest)
      let extended ← fields.insert value none key
      match dropBlanks last with
      | ',' :: more => readFields depth fuel extended more
      | '\x7d' :: more => return (extended, more)
      | _ => none
    | _ => none

end

/-- Reads the lines of a file into its tables. `current` is the path of the last header. -/
def readDocument (fuel : Nat) (root : Fields) (current : List String) (cs : List Char) :
    Option Fields :=
  match fuel with
  | 0 => none
  | fuel + 1 =>
    match dropBlanks cs with
    | [] => some root
    | '#' :: rest => do readDocument fuel root current (← endLine ('#' :: rest))
    | '\n' :: rest | '\r' :: '\n' :: rest => readDocument fuel root current rest
    | '[' :: '[' :: rest => do
      match ← readKey rest with
      | (path, ']' :: ']' :: after) =>
        readDocument fuel (← root.openArray path) path (← endLine after)
      | _ => none
    | '[' :: rest => do
      match ← readKey rest with
      | (path, ']' :: after) =>
        readDocument fuel (← root.openTable path) path (← endLine after)
      | _ => none
    | start => do
      match ← readKey start with
      | (key, '=' :: rest) =>
        let (value, after) ← readValue deepest (rest.length + 1) (dropBlanks rest)
        let changed ← root.change (fun table => table.insert value none key) current
        readDocument fuel changed current (← endLine after)
      | _ => none

/-- The fields of the table that a text describes. A byte order mark at its start is skipped. -/
def parse? (text : String) : Option (List (String × Toml)) :=
  let cs := match text.toList with
    | '\ufeff' :: rest => rest
    | cs => cs
  (readDocument (cs.length + 1) [] [] cs).map finishFields

end RouteDoc.Toml
