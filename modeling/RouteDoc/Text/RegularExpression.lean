import RouteDoc.Text.Alphanumeric
import RouteDoc.Text.Hexadecimal

/-!
Which texts are regular expressions: characters, escapes, classes in square brackets, groups in
parentheses, alternatives after `|`, and the repetitions `*`, `+` and `?` of what is before them.
Neither classes of scripts nor letters in both cases can be asked for, and a brace outside of a class
has to be escaped.
-/

namespace RouteDoc.Text.RegularExpression

/-- What an escape or a character stands for: a character, or the start or end of the text. -/
inductive Atom
  | char (c : Char)
  | border
  deriving DecidableEq, Repr

/-- Whether a character that is not named by a letter may be written after a backslash. -/
def isEscapable (c : Char) : Bool :=
  c.toNat < 0x80 && !c.isAlphanum && c != '<' && c != '>'

/-- Reads an escape after its backslash. -/
def readEscape : List Char → Option (Atom × List Char)
  | [] => none
  | c :: rest => match c with
    | 'a' => some (.char '\x07', rest)
    | 'f' => some (.char '\x0c', rest)
    | 'n' => some (.char '\n', rest)
    | 'r' => some (.char '\r', rest)
    | 't' => some (.char '\t', rest)
    | 'v' => some (.char '\x0b', rest)
    | 'x' => (readCodePoint 2 rest).map fun (c, after) => (.char c, after)
    | 'u' => (readCodePoint 4 rest).map fun (c, after) => (.char c, after)
    | 'U' => (readCodePoint 8 rest).map fun (c, after) => (.char c, after)
    | 'A' | 'z' => some (.border, rest)
    | _ => if isEscapable c then some (.char c, rest) else none

/-- Reads one character of a class, escaped or as it is. -/
def readMember : List Char → Option (Char × List Char)
  | [] => none
  | '\\' :: rest => match readEscape rest with
    | some (.char c, after) => some (c, after)
    | _ => none
  | c :: rest => some (c, rest)

/-- Reads a character of a class or a range between two of them, the first of which must not come
after the second. A hyphen before another one or before the end of the class makes no range. -/
def readRange (cs : List Char) : Option (List Char) :=
  match readMember cs with
  | none => none
  | some (first, '-' :: after) =>
    match after with
    | ']' :: _ | '-' :: _ => some ('-' :: after)
    | _ => match readMember after with
      | some (last, rest) => if first ≤ last then some rest else none
      | none => none
  | some (_, after) => some after

/-- The classes with names. -/
def classNames : List String :=
  ["alnum", "alpha", "ascii", "blank", "cntrl", "digit", "graph", "lower", "print", "punct", "space",
    "upper", "word", "xdigit"]

/-- Reads a class that is given by its name between colons, after the opening bracket. -/
def readNamed (cs : List Char) : Option (List Char) :=
  match cs with
  | ':' :: rest =>
    let name := match rest with
      | '^' :: name => name
      | name => name
    match name.dropWhile (· != ':') with
    | ':' :: ']' :: after =>
      if classNames.contains (String.ofList (name.takeWhile (· != ':'))) then some after else none
    | _ => none
  | _ => none

/-- Drops the start of a class after its opening bracket: the sign that turns it around, and then
hyphens, or a closing bracket, which stand for themselves there. -/
def dropStart (cs : List Char) : List Char :=
  let members := match cs with
    | '^' :: rest => rest
    | _ => cs
  match members with
  | ']' :: rest => rest
  | _ => members.dropWhile (· == '-')

/-- Reads the rest of a class, inside of which `depth` others are open. Two classes may be joined by
`&&`, `--` or `~~`. `fuel` bounds the number of members. -/
def readClass : Nat → Nat → List Char → Option (List Char)
  | 0, _, _ | _, _, [] => none
  | _, 0, ']' :: rest => some rest
  | fuel + 1, depth + 1, ']' :: rest => readClass fuel depth rest
  | fuel + 1, depth, '[' :: rest =>
    match readNamed rest with
    | some after => readClass fuel depth after
    | none => readClass fuel (depth + 1) (dropStart rest)
  | fuel + 1, depth, '&' :: '&' :: rest | fuel + 1, depth, '-' :: '-' :: rest
  | fuel + 1, depth, '~' :: '~' :: rest => readClass fuel depth rest
  | fuel + 1, depth, cs => (readRange cs).bind (readClass fuel depth)

/-- How a parenthesis starts: it opens a group, which may have a name, or it only changes flags. -/
inductive Opening
  | group (name : Option (List Char))
  | flags
  deriving DecidableEq, Repr

/-- Whether a group may have a name. -/
def isName : List Char → Bool
  | [] => false
  | c :: rest =>
    (c == '_' || (isAlphanumeric c && !c.isDigit)) &&
      rest.all fun c => c == '_' || c == '.' || c == '[' || c == ']' || isAlphanumeric c

/-- Whether some letters are flags. Each is there once; those after a hyphen are turned off, and the
case of letters can only be turned off. -/
def areFlags (letters : List Char) : Bool :=
  letters.all (['i', 'm', 's', 'U', 'u', 'R', 'x', '-'].contains ·) && decide letters.Nodup &&
    letters.getLast? != some '-' && !(letters.takeWhile (· != '-')).contains 'i'

/-- Reads a name of a group up to its closing bracket. -/
def readName (cs : List Char) : Option (Opening × List Char) :=
  let name := cs.takeWhile (· != '>')
  match cs.dropWhile (· != '>') with
  | '>' :: after => if isName name then some (.group (some name), after) else none
  | _ => none

/-- Reads what comes right after an opening parenthesis. -/
def readOpening : List Char → Option (Opening × List Char)
  | '?' :: 'P' :: '<' :: rest | '?' :: '<' :: rest => readName rest
  | '?' :: rest =>
    let isLetter (c : Char) : Bool := c != ':' && c != ')'
    let letters := rest.takeWhile isLetter
    match rest.dropWhile isLetter with
    | ':' :: after => if areFlags letters then some (.group none, after) else none
    | ')' :: after => if letters ≠ [] && areFlags letters then some (.flags, after) else none
    | _ => none
  | cs => some (.group none, cs)

/-- Drops the sign after a repetition that makes it as short as possible. -/
def dropLazy : List Char → List Char
  | '?' :: rest => rest
  | cs => cs

/-- What is known after the first characters of an expression: how many groups are open, the names of
all groups so far, and whether there is something that can be repeated. -/
structure State where
  depth : Nat
  names : List (List Char)
  repeatable : Bool

/-- Whether the rest of an expression is well formed. `fuel` bounds the number of its parts. -/
def accepts : Nat → State → List Char → Bool
  | _, state, [] => state.depth == 0
  | 0, _, _ => false
  | fuel + 1, state, c :: rest =>
    let after := accepts fuel { state with repeatable := true }
    match c with
    | '(' => match readOpening rest with
      | some (.group name, inner) =>
        !name.any state.names.contains &&
          accepts fuel ⟨state.depth + 1, name.toList ++ state.names, false⟩ inner
      | some (.flags, following) => accepts fuel { state with repeatable := false } following
      | none => false
    | ')' => state.depth != 0 && accepts fuel ⟨state.depth - 1, state.names, true⟩ rest
    | '|' => accepts fuel { state with repeatable := false } rest
    | '*' | '+' | '?' => state.repeatable && after (dropLazy rest)
    | '\x7b' => false
    | '[' => (readClass (rest.length + 1) 0 (dropStart rest)).any after
    | '\\' => (readEscape rest).any fun (_, following) => after following
    | _ => after rest

end RegularExpression

/-- Whether a text is a well-formed regular expression. -/
def isRegularExpression (cs : List Char) : Bool :=
  RegularExpression.accepts (cs.length + 1) ⟨0, [], false⟩ cs

end RouteDoc.Text
