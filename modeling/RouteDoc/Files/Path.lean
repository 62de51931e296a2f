import RouteDoc.Text.Join
import RouteDoc.Text.Split

/-!
Paths as they are written, with `/` between their parts. A path is text: nothing here looks at
what it leads to.
-/

namespace RouteDoc

/-- A path as it is written. -/
structure Path where
  text : String
  deriving DecidableEq, Repr

namespace Path

/-- Whether a path starts at the root. -/
def isAbsolute (path : Path) : Bool := path.text.toList.head? == some '/'

/-- The texts between the slashes, empty ones included. -/
def pieces (path : Path) : List String := (Text.pieces '/' path.text.toList).map String.ofList

/-- The parts that tell paths apart. Repeated and trailing slashes do not count, and neither does a
part `.` unless a relative path starts with it; the root is a part of its own. -/
def parts (path : Path) : List String :=
  let names := path.pieces.filter (· != "")
  if path.isAbsolute then "/" :: names.filter (· != ".")
  else match names with
    | "." :: rest => "." :: rest.filter (· != ".")
    | names => names.filter (· != ".")

/-- The place of a part among parts of other kinds: the root comes first, then the folder itself,
then the folder above, and then all names. -/
def kind (part : String) : Nat :=
  if part = "/" then 0 else if part = "." then 1 else if part = ".." then 2 else 3

/-- Whether one part of a path sorts before another or is equal to it. -/
def partLe (first second : String) : Bool :=
  if kind first = kind second then decide (first ≤ second) else decide (kind first < kind second)

/-- Whether one list of parts sorts before another or is equal to it: the first difference decides,
and of two lists without one, the shorter comes first. -/
def partsLe : List String → List String → Bool
  | [], _ => true
  | _ :: _, [] => false
  | a :: first, b :: second => if a = b then partsLe first second else partLe a b

/-- Whether one path sorts before another or is equal to it: part by part. -/
def le (first second : Path) : Bool := partsLe first.parts second.parts

/-- A path with something after it. An absolute addition stands for itself. -/
def join (base : Path) (addition : String) : Path :=
  if addition.toList.head? = some '/' then ⟨addition⟩
  else if base.text = "" then ⟨addition⟩
  else if base.text.toList.getLast? = some '/' then ⟨base.text ++ addition⟩
  else ⟨base.text ++ "/" ++ addition⟩

/-- Drops slashes, and parts `.`, from the end of a path; the characters are given in reverse. -/
def dropTrailing : List Char → List Char
  | '/' :: rest => dropTrailing rest
  | '.' :: '/' :: rest => dropTrailing rest
  | cs => cs

/-- What stands before the last part of a path, and that part, if it can be the name of a file:
neither `.` nor `..`. -/
def headAndName? (path : Path) : Option (List Char × List Char) :=
  let reversed := dropTrailing path.text.toList.reverse
  let name := (reversed.takeWhile (· ≠ '/')).reverse
  let head := (reversed.dropWhile (· ≠ '/')).reverse
  if name = [] ∨ name = ['.'] ∨ name = ['.', '.'] then none else some (head, name)

/-- A file name without its extension: all before the last dot. A dot at the start does not begin
an extension. -/
def stem (name : List Char) : List Char :=
  match name.reverse.dropWhile (· ≠ '.') with
  | _ :: c :: rest => (c :: rest).reverse
  | _ => name

/-- The name that a path gives to the document read from it: the file name without its extension,
or nothing where there is no file name. -/
def label (path : Path) : String :=
  match path.headAndName? with
  | some (_, name) => String.ofList (stem name)
  | none => ""

/-- A path with its extension replaced, or with one added. A path without a file name stays as it
is; an empty extension takes the dot with it. The old extension goes first: where that leaves a path
that ends with `..`, there is no file name any more to which the new one could be added. -/
def withExtension (path : Path) (extension : String) : Path :=
  match path.headAndName? with
  | none => path
  | some (head, name) =>
    let base := head ++ stem name
    if stem name = ['.'] ∧ path.text.toList = head ++ name then ⟨String.ofList (base ++ ['.'])⟩
    else if extension = "" then ⟨String.ofList base⟩
    else ⟨String.ofList base ++ "." ++ extension⟩

/-- A path with an extension added to the one it has. -/
def addExtension (path : Path) (extension : String) : Path :=
  match path.headAndName? with
  | none => path
  | some (head, name) => ⟨String.ofList (head ++ name) ++ "." ++ extension⟩

/-- Drops what two lists have in common at their starts. -/
def dropCommon : List String → List String → List String × List String
  | a :: first, b :: second => if a = b then dropCommon first second else (a :: first, b :: second)
  | first, second => (first, second)

/-- A path as it is seen from a folder: with a part `..` for each folder that has to be left.
Relative paths start at the folder itself. -/
def seenFrom (folder : List String) (path : Path) : String :=
  let names := path.parts.filter fun part => part != "." && part != "/"
  let (up, down) := dropCommon folder (if path.isAbsolute then names else folder ++ names)
  Text.separated "/" (up.map (fun _ => "..") ++ down)

end Path

end RouteDoc
