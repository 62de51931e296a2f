import Mathlib.Data.List.Forall2
import RouteDoc.Proofs.CodeLines

/-! The lines of a whole file of generated code. Between the line that opens the function and the brace that closes it
there is one group of lines for each route, and the semicolon at the end of a line ends its group. -/

namespace RouteDoc
open Registration Text

/-! What the lines of a statement look like. -/

/-- How the lines for a command start: so many spaces, and a call up to its first argument. -/
def Command.openings : Command → List (Nat × String)
  | .includes name => [(8, ".includes(" ++ name.code)]
  | .invoke invocation =>
    (8, ".does(" ++ invocation.handler.code) :: invocation.params.map fun param => (12, ".using(" ++ param.name.code)

/-- How the lines for a route start. -/
def Route.openings (route : Route) : List (Nat × String) :=
  (4, "reg.route(" ++ codeOrEmpty route.name) :: route.commands.flatMap Command.openings

/-- A line that starts in the given way. -/
def Opens (opening : Nat × String) (line : List Char) : Prop :=
  List.replicate opening.1 ' ' ++ opening.2.toList <+: line

/-- The lines for a route: one for itself and one for each of its commands and bindings, in their order. Only the last
one has the semicolon behind its closing parenthesis. -/
structure Route.Group (route : Route) (group : List (List Char)) : Prop where
  opens : List.Forall₂ Opens route.openings group
  goesOn : ∀ line ∈ group.dropLast, [')'] <:+ line
  ends : ∃ last ∈ group.getLast?, [')', ';'] <:+ last

namespace Registration

theorem Line.closes {text : String} (line : Line text) : [')'] <:+ text.toList := by
  obtain ⟨c, rest, starts, _⟩ := line.starts
  have filled : text.toList ≠ [] := by simp [starts]
  have last := line.fragment.closed _ (List.getLast?_eq_some_getLast filled)
  refine ⟨text.toList.dropLast, ?_⟩
  rw [← last, List.dropLast_append_getLast]

theorem suffix_row {suffix : List Char} {text : String} (ends : suffix <:+ text.toList) (depth : Nat) :
    suffix <:+ row depth text :=
  ends.trans (List.suffix_append _ _)

/-- The start of a line does not depend on whether it is the last one. -/
theorem opens_statementRows {openings lines : List (Nat × String)}
    (starts : List.Forall₂ (fun opening line => opening.1 = 4 * line.1 ∧ opening.2.toList <+: line.2.toList)
      openings lines) : List.Forall₂ Opens openings (statementRows lines) := by
  induction starts with
  | nil => exact .nil
  | @cons opening placed openings lines first _ ih =>
    obtain ⟨spaces, call⟩ := opening
    obtain ⟨depth, text⟩ := placed
    obtain ⟨rfl, starts⟩ := first
    refine .cons ?_ ih
    have kept : call.toList <+: (closing text lines).toList := by
      cases lines with
      | nil => exact starts.trans (by simp [closing])
      | cons => exact starts
    exact (List.prefix_append_right_inj _).mpr kept

theorem forall₂_flatMap {α β γ : Type} {related : β → γ → Prop} {items : List α} {first : α → List β}
    {second : α → List γ} (each : ∀ item ∈ items, List.Forall₂ related (first item) (second item)) :
    List.Forall₂ related (items.flatMap first) (items.flatMap second) := by
  induction items with
  | nil => exact .nil
  | cons item items ih =>
    obtain ⟨head, tail⟩ := List.forall_mem_cons.mp each
    exact List.rel_append head (ih tail)

theorem starts_commandLines (command : Command) :
    List.Forall₂ (fun opening line => opening.1 = 4 * line.1 ∧ opening.2.toList <+: line.2.toList)
      command.openings (commandLines command) := by
  cases command with
  | includes name => exact .cons ⟨rfl, by simp [includesCall]⟩ .nil
  | invoke invocation =>
    refine .cons ⟨rfl, by simp [doesCall]⟩ ?_
    rw [List.forall₂_map_left_iff, List.forall₂_map_right_iff, List.forall₂_same]
    intro param _
    exact ⟨rfl, by simp [usingCall]⟩

theorem goesOn_statementRows {lines : List (Nat × String)} (each : ∀ line ∈ lines, Line line.2) :
    ∀ line ∈ (statementRows lines).dropLast, [')'] <:+ line := by
  induction lines with
  | nil => exact List.forall_mem_nil _
  | cons placed lines ih =>
    obtain ⟨depth, text⟩ := placed
    obtain ⟨first, later⟩ := List.forall_mem_cons.mp each
    cases lines with
    | nil => exact List.forall_mem_nil _
    | cons => exact List.forall_mem_cons.mpr ⟨suffix_row first.closes depth, ih later⟩

theorem ends_statementRows {lines : List (Nat × String)} (filled : lines ≠ []) (each : ∀ line ∈ lines, Line line.2) :
    ∃ last ∈ (statementRows lines).getLast?, [')', ';'] <:+ last := by
  induction lines with
  | nil => exact absurd rfl filled
  | cons placed lines ih =>
    obtain ⟨depth, text⟩ := placed
    obtain ⟨first, later⟩ := List.forall_mem_cons.mp each
    cases lines with
    | nil =>
      obtain ⟨front, ends⟩ := first.closes
      refine ⟨row depth (text ++ ";"), rfl, suffix_row ⟨front, ?_⟩ depth⟩
      simp [← ends]
    | cons next lines =>
      obtain ⟨last, found, ends⟩ := ih (List.cons_ne_nil _ _) later
      have more : statementRows (next :: lines) ≠ [] := List.cons_ne_nil _ _
      refine ⟨last, ?_, ends⟩
      rwa [statementRows, List.getLast?_cons_of_ne_nil more]

theorem group_routeLines {route : Route} (unbroken : ∀ value ∈ route.values, Unbroken value) :
    route.Group (statementRows (routeLines route)) := by
  have each := line_routeLines unbroken
  refine ⟨opens_statementRows (.cons ⟨rfl, by simp⟩ ?_), goesOn_statementRows each,
    ends_statementRows (List.cons_ne_nil _ _) each⟩
  exact forall₂_flatMap fun command _ => starts_commandLines command

theorem group_routes {routes : List Route} (unbroken : ∀ route ∈ routes, ∀ value ∈ route.values, Unbroken value) :
    List.Forall₂ Route.Group routes (routes.map fun route => statementRows (routeLines route)) := by
  rw [List.forall₂_map_right_iff, List.forall₂_same]
  intro route member
  exact group_routeLines (unbroken route member)

/-! What stands before the function. -/

/-- The rows of `use` items, and the empty row after them. -/
def useRows (paths : List String) : List (List Char) :=
  if paths.isEmpty then [] else paths.map (fun path => row 0 ("use " ++ path ++ ";")) ++ [[]]

/-- The text of the row with the constant. -/
def listing (values : List Value) : String :=
  "pub const IMPORTS: &[&str] = &[" ++ separated ", " (values.map Value.code) ++ "];"

theorem toList_listing (values : List Value) : (listing values).toList =
    "pub const IMPORTS: &[&str] = &[".toList ++ (separated ", " (values.map Value.code)).toList ++ "];".toList := by
  unfold listing
  rw [String.toList_append, String.toList_append]

/-- The row of the constant, and the empty row after it. -/
def importRows (values : List Value) : List (List Char) :=
  if values.isEmpty then [] else [row 0 (listing values), []]

theorem toList_useItems (paths : List String) : (useItems paths).toList = (useRows paths).flatMap (· ++ ['\n']) := by
  unfold useItems useRows
  split
  next => rfl
  next => simp [toList_concat, toList_line, List.flatMap_map]

theorem toList_otherImports (values : List Value) :
    (otherImports values).toList = (importRows values).flatMap (· ++ ['\n']) := by
  unfold otherImports importRows
  split
  next => rfl
  next =>
    change (line 0 (listing values) ++ "\n").toList = _
    simp [toList_line]

/-- The rows before the one that opens the function. -/
def preambleRows (registry : String) (imports : List Value) : List (List Char) :=
  row 0 header :: [] :: (useRows (usePaths registry imports) ++ importRows (imports.filter (!isUse ·)))

theorem forall_mem_preambleRows {good : List Char → Prop} {registry : String} {imports : List Value}
    (titled : good (row 0 header)) (empty : good [])
    (used : ∀ path ∈ usePaths registry imports, good (row 0 ("use " ++ path ++ ";")))
    (listed : good (row 0 (listing (imports.filter (!isUse ·))))) :
    ∀ row ∈ preambleRows registry imports, good row := by
  refine List.forall_mem_cons.mpr ⟨titled, List.forall_mem_cons.mpr ⟨empty, List.forall_mem_append.mpr ⟨?_, ?_⟩⟩⟩
  · unfold useRows
    split
    next => exact List.forall_mem_nil _
    next => exact List.forall_mem_append.mpr ⟨List.forall_mem_map.mpr used, List.forall_mem_singleton.mpr empty⟩
  · unfold importRows
    split
    next => exact List.forall_mem_nil _
    next => exact List.forall_mem_cons.mpr ⟨listed, List.forall_mem_singleton.mpr empty⟩

theorem unbroken_listing {values : List Value} (unbroken : ∀ value ∈ values, Unbroken value) :
    '\n' ∉ (listing values).toList := by
  cases values with
  | nil =>
    rw [toList_listing]
    simp [separated]
  | cons value values =>
    obtain ⟨first, others⟩ := List.forall_mem_cons.mp unbroken
    have listed : ∀ other ∈ values, '\n' ∉ other.code.toList := fun other member => unbroken_code (others other member)
    rw [toList_listing, toList_separated]
    simpa [unbroken_code first] using listed

theorem unbroken_preambleRows {registry : String} {imports : List Value} (path : '\n' ∉ registry.toList)
    (unbroken : ∀ value ∈ imports, Unbroken value) : ∀ row ∈ preambleRows registry imports, '\n' ∉ row := by
  apply forall_mem_preambleRows
  · decide
  · exact List.not_mem_nil
  · intro used member
    have absent : '\n' ∉ used.toList := by
      rcases List.mem_append.mp member with own | imported
      · split at own
        next => rwa [List.mem_singleton.mp own]
        next => cases own
      · obtain ⟨value, filtered, rfl⟩ := List.mem_map.mp imported
        have valid := (Bool.and_eq_true_iff.mp (List.mem_filter.mp filtered).2).2
        exact not_mem_usePath (by decide) (by decide) (by decide) valid
    exact unbroken_row (by simp [absent]) 0
  · apply unbroken_row
    apply unbroken_listing
    intro value member
    exact unbroken value (List.mem_filter.mp member).1

/-- No row before the function can be taken for the one that opens it. -/
theorem preambleRows_apart (registry : String) (imports : List Value) :
    ∀ row ∈ preambleRows registry imports, ¬ "pub fn ".toList <+: row := by
  apply forall_mem_preambleRows
  · decide
  · decide
  · intro path _
    simp [row]
  · rw [row, toList_listing]
    simp

/-! The whole file. -/

theorem opens_signature (registry label : String) : "pub fn ".toList <+: row 0 (signature registry label) := by
  simp [row, signature]

theorem toList_statements (routes : List Route) :
    (concat (routes.map fun route => statement (routeLines route))).toList =
      (routes.map fun route => statementRows (routeLines route)).flatten.flatMap (· ++ ['\n']) := by
  rw [toList_concat, ← List.flatMap_def, List.flatMap_assoc]
  simp only [toList_statement]

theorem toList_render (registry : String) (document : Document) :
    (render registry document).toList =
      (preambleRows registry document.imports ++ row 0 (signature registry document.label) ::
        ((document.routes.map fun route => statementRows (routeLines route)).flatten ++ [['\x7d']])).flatMap
          (· ++ ['\n']) := by
  simp only [render, preambleRows, String.toList_append, toList_line, toList_useItems, toList_otherImports,
    toList_statements, List.flatMap_append, List.flatMap_cons, List.append_assoc, List.cons_append]
  rfl

/-- Between the line that opens the function and the brace that closes it there are the groups of lines for the
routes in their order, and no other lines. -/
theorem lines_render {registry : String} {document : Document} (path : '\n' ∉ registry.toList)
    (unbroken : ∀ value ∈ document.values, value.isLiteral = true → '\n' ∉ value.text.toList) :
    ∃ preamble opening groups,
      pieces '\n' (render registry document).toList =
        preamble ++ opening :: (List.flatten groups ++ [['\x7d'], []]) ∧
      (∀ line ∈ preamble, ¬ "pub fn ".toList <+: line) ∧ "pub fn ".toList <+: opening ∧
      List.Forall₂ Route.Group document.routes groups := by
  have routed : ∀ route ∈ document.routes, ∀ value ∈ route.values, Unbroken value := by
    intro route member value held
    exact unbroken value (Document.mem_values_of_route member held)
  have imported : ∀ value ∈ document.imports, Unbroken value :=
    fun value member => unbroken value (List.mem_append_left _ member)
  have stated : ∀ row ∈ (document.routes.map fun route => statementRows (routeLines route)).flatten, '\n' ∉ row := by
    intro row member
    obtain ⟨group, among, held⟩ := List.mem_flatten.mp member
    obtain ⟨route, listed, rfl⟩ := List.mem_map.mp among
    exact unbroken_statementRows (line_routeLines (routed route listed)) row held
  have signed := unbroken_row (not_mem_signature (by decide) (by decide) path document.label) 0
  refine ⟨preambleRows registry document.imports, row 0 (signature registry document.label), _, ?_,
    preambleRows_apart registry document.imports, opens_signature registry document.label, group_routes routed⟩
  rw [toList_render, pieces_rows]
  · simp
  · refine List.forall_mem_append.mpr ⟨unbroken_preambleRows path imported, List.forall_mem_cons.mpr ⟨signed, ?_⟩⟩
    exact List.forall_mem_append.mpr ⟨stated, List.forall_mem_singleton.mpr (by decide)⟩

/-- Strings that hold line feeds, a route without commands, and one that ends with an include. -/
theorem lines_render_feeds :
    let source := "IMPORT 'p\nq' ROUTE 'a\n);' ROUTE b DOES «f» USING x «1» FROM 'y\n' USING z INCLUDES c"
    ∃ document preamble opening groups, parse source "m" .strict = .ok document ∧
      pieces '\n' (render "web::Registry" document).toList =
        preamble ++ opening :: (List.flatten groups ++ [['\x7d'], []]) ∧
      groups.map List.length = [1, 5] := by
  intro source
  let param : Param := ⟨.string "x", some (.literal "1"), [.string "y\n"]⟩
  let document : Document := ⟨"m", [.string "p\nq"],
    [⟨some (.string "a\n);"), none, []⟩,
      ⟨some (.string "b"), none, [.invoke ⟨.literal "f", none, [param, ⟨.string "z", none, []⟩]⟩,
        .includes (.string "c")]⟩]⟩
  have scanned : Scan.ofText source =
      ⟨[⟨.keyword .importWord, 0, 6⟩, ⟨.string "p\nq", 7, 12⟩, ⟨.keyword .routeWord, 13, 18⟩,
        ⟨.string "a\n);", 19, 25⟩, ⟨.keyword .routeWord, 26, 31⟩, ⟨.string "b", 32, 33⟩,
        ⟨.keyword .doesWord, 34, 38⟩, ⟨.literal "f", 39, 44⟩, ⟨.keyword .usingWord, 45, 50⟩, ⟨.string "x", 51, 52⟩,
        ⟨.literal "1", 53, 58⟩, ⟨.keyword .fromWord, 59, 63⟩, ⟨.string "y\n", 64, 68⟩,
        ⟨.keyword .usingWord, 69, 74⟩, ⟨.string "z", 75, 76⟩, ⟨.keyword .includesWord, 77, 85⟩,
        ⟨.string "c", 86, 87⟩], none⟩ := by decide +kernel
  have parsed : parse source "m" .strict = .ok document := by
    simp only [parse, scanned]
    rfl
  obtain ⟨preamble, opening, groups, lines, _, _, grouped⟩ :=
    @lines_render "web::Registry" document (by decide) (by decide)
  refine ⟨document, preamble, opening, groups, parsed, lines, ?_⟩
  have lengths : List.Forall₂ Eq (document.routes.map (·.openings.length)) (groups.map List.length) := by
    rw [List.forall₂_map_left_iff, List.forall₂_map_right_iff]
    exact grouped.imp fun _ _ group => group.opens.length_eq
  rw [List.forall₂_eq_eq_eq] at lengths
  exact lengths.symm

end Registration
end RouteDoc
