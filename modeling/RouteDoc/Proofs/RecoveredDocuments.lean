import RouteDoc.Proofs.CodeRecovery
import RouteDoc.Proofs.JoinedSources

/-! The document behind a whole file of generated code. The file is cut into its lines first: a line ends at
its line feed, the spaces before its text are its level, and a closing parenthesis at its end means that the
statement goes on. The `use` items, the constant and the statements are told apart by how they start. -/

namespace RouteDoc.Registration
open Text

/-! Lines and statements. -/

/-- A text that makes a line: it does not break it and cannot be taken for more of its indentation. -/
structure Solid (text : String) : Prop where
  unbroken : '\n' ∉ text.toList
  starts : ∃ c rest, text.toList = c :: rest ∧ c ≠ ' '

theorem Line.solid {text : String} (line : Line text) : Solid text := ⟨line.fragment.unbroken, line.starts⟩

theorem Line.ended {text : String} (line : Line text) : Solid (text ++ ";") := by
  obtain ⟨c, rest, starts, other⟩ := line.starts
  refine ⟨?_, c, rest ++ [';'], ?_, other⟩
  · simp [line.fragment.unbroken]
  · simp [starts]

/-- No line of a statement but the last ends with a semicolon. -/
theorem Line.ne_ended {text other : String} (line : Line text) : text ≠ other ++ ";" := by
  rintro rfl
  have closed := line.fragment.closed ';' (by simp)
  cases closed

theorem indentation_inj {spaces others : Nat} {text other : List Char} {c d : Char} (starts : c ≠ ' ')
    (begins : d ≠ ' ')
    (same : List.replicate spaces ' ' ++ c :: text = List.replicate others ' ' ++ d :: other) :
    spaces = others ∧ c :: text = d :: other := by
  induction spaces generalizing others with
  | zero =>
    cases others with
    | zero => exact ⟨rfl, same⟩
    | succ others => exact absurd (List.cons.inj same).1 starts
  | succ spaces ih =>
    cases others with
    | zero => exact absurd (List.cons.inj same).1.symm begins
    | succ others =>
      obtain ⟨spaces, texts⟩ := ih (List.cons.inj same).2
      exact ⟨congrArg Nat.succ spaces, texts⟩

theorem recovers_line : Recovers (fun placed : Nat × String => (line placed.1 placed.2).toList) id
    (fun placed => Solid placed.2) (fun _ => True) := by
  intro (depth, text) (level, label) solid suits rest more _ _ same
  have unbroken {depth : Nat} {text : String} (solid : Solid text) :
      '\n' ∉ List.replicate (4 * depth) ' ' ++ text.toList := by
    simp [solid.unbroken]
  simp only [line, String.toList_append, String.toList_ofList, List.append_assoc] at same
  rw [← List.append_assoc, ← List.append_assoc (List.replicate (4 * level) ' ')] at same
  obtain ⟨lines, rests⟩ := append_mark_inj (unbroken solid) (unbroken suits) same
  obtain ⟨c, cs, starts, other⟩ := solid.starts
  obtain ⟨d, ds, begins, differs⟩ := suits.starts
  rw [starts, begins] at lines
  obtain ⟨spaces, texts⟩ := indentation_inj other differs lines
  rw [← starts, ← begins, String.toList_inj] at texts
  have depths : depth = level := by omega
  exact ⟨Prod.ext depths texts, rests⟩

theorem Line.solid_closing {text : String} (line : Line text) (rest : List (Nat × String)) :
    Solid (closing text rest) := by
  cases rest with
  | nil => exact line.ended
  | cons => exact line.solid

theorem recovers_statement : Recovers (fun lines => (statement lines).toList) id
    (fun lines => lines ≠ [] ∧ ∀ line ∈ lines, Line line.2) (fun _ => True) := by
  rintro lines others ⟨filled, each⟩ ⟨full, every⟩ rest more _ _ same
  induction lines generalizing others with
  | nil => exact absurd rfl filled
  | cons placed lines ih =>
    obtain ⟨depth, text⟩ := placed
    cases others with
    | nil => exact absurd rfl full
    | cons placed others =>
      obtain ⟨level, other⟩ := placed
      obtain ⟨first, later⟩ := List.forall_mem_cons.mp each
      obtain ⟨second, remaining⟩ := List.forall_mem_cons.mp every
      simp only [statement_cons, String.toList_append, List.append_assoc] at same
      obtain ⟨placed, rests⟩ : (depth, closing text lines) = (level, closing other others) ∧ _ :=
        recovers_line (first.solid_closing lines) (second.solid_closing others) trivial trivial same
      obtain ⟨depths, texts⟩ := Prod.mk.inj placed
      cases lines with
      | nil =>
        cases others with
        | nil => exact ⟨by simp [depths, (String.append_left_inj ";").mp texts], rests⟩
        | cons => exact absurd texts.symm second.ne_ended
      | cons next lines =>
        cases others with
        | nil => exact absurd texts first.ne_ended
        | cons after others =>
          obtain ⟨lines, rests⟩ := ih (List.cons_ne_nil next lines) later (List.cons_ne_nil after others) remaining rests
          rw [id, id] at lines
          exact ⟨by simp [depths, lines, show text = other from texts], rests⟩

/-! Routes. -/

theorem recovers_route : Recovers (fun route => (statement (routeLines route)).toList) Route.filled PlainRoute
    (fun _ => True) := by
  intro route other plain suits rest more after later same
  have filled (route : Route) : routeLines route ≠ [] := List.cons_ne_nil _ _
  have line {route : Route} (plain : PlainRoute route) : ∀ line ∈ routeLines route, Line line.2 :=
    line_routeLines fun value held => (plain.2 value held).unbroken
  obtain ⟨lines, rests⟩ := recovers_statement ⟨filled route, line plain⟩ ⟨filled other, line suits⟩ after later same
  exact ⟨routeLines_injective plain suits lines, rests⟩

/-- The statements end at the brace that closes the function. -/
theorem recovers_routes : Recovers (List.flatMap fun route => (statement (routeLines route)).toList)
    (List.map Route.filled) (∀ route ∈ ·, PlainRoute route) (fun rest => rest.head? = some '\x7d') := by
  apply recovers_route.flatMap
  · exact fun _ _ _ => trivial
  · exact fun _ _ => trivial
  · intro route rest _ closed
    rw [routeLines, statement_cons] at closed
    simp [line] at closed

/-! Imports. -/

theorem string_of_isUse {value : Value} (used : isUse value = true) : value = .string value.text := by
  cases value with
  | literal => cases used
  | string => rfl

theorem recovers_use : Recovers (fun value : Value => (line 0 ("use " ++ value.text ++ ";")).toList) id
    (fun value => isUse value = true) (fun _ => True) := by
  intro value other used suits rest more _ _ same
  have ends {value : Value} (used : isUse value = true) : ';' ∉ value.text.toList :=
    not_mem_usePath (by decide) (by decide) (by decide) (Bool.and_eq_true_iff.mp used).2
  simp only [line, String.toList_append, List.append_assoc] at same
  obtain ⟨texts, rests⟩ := append_mark_inj (ends used) (ends suits) (List.append_cancel_left same)
  refine ⟨?_, (List.cons.inj rests).2⟩
  rw [id, id, string_of_isUse used, string_of_isUse suits, String.toList_inj.mp texts]

/-- The `use` items end at the empty line after them. -/
theorem recovers_uses : Recovers
    (List.flatMap fun value : Value => (line 0 ("use " ++ value.text ++ ";")).toList) (List.map id)
    (∀ value ∈ ·, isUse value = true) (fun rest => rest.head? = some '\n') := by
  apply recovers_use.flatMap
  · exact fun _ _ _ => trivial
  · exact fun _ _ => trivial
  · intro value rest _ ended
    simp [line] at ended

theorem useItems_filled {own : List String} {values : List Value} (filled : own ++ values.map Value.text ≠ []) :
    (useItems (own ++ values.map Value.text)).toList =
      (own.flatMap fun path => (line 0 ("use " ++ path ++ ";")).toList) ++
        ((values.flatMap fun value => (line 0 ("use " ++ value.text ++ ";")).toList) ++ ['\n']) := by
  rw [useItems, if_neg (by simpa using filled), String.toList_append, toList_concat, List.flatMap_append,
    List.flatMap_map, List.append_assoc]
  rfl

theorem recovers_useItems (own : List String) : Recovers
    (fun values : List Value => (useItems (own ++ values.map Value.text)).toList) id
    (∀ value ∈ ·, isUse value = true) (fun rest => rest.head? = some 'p') := by
  refine Recovers.orNothing (fun values => own ++ values.map Value.text ≠ []) ?_ ?_ ?_ ?_
  · rintro values others ⟨used, filled⟩ ⟨suits, full⟩ rest more _ _ same
    simp only [useItems_filled filled, useItems_filled full, List.append_assoc] at same
    obtain ⟨uses, rests⟩ := recovers_uses used suits rfl rfl (List.append_cancel_left same)
    rw [List.map_id, List.map_id] at uses
    exact ⟨uses, List.append_cancel_left rests⟩
  · intro values empty
    rw [Classical.not_not.mp empty]
    rfl
  · intro values others empty void
    have nothing {values : List Value} (empty : ¬ own ++ values.map Value.text ≠ []) : values = [] :=
      List.map_eq_nil_iff.mp (List.append_eq_nil_iff.mp (Classical.not_not.mp empty)).2
    rw [nothing empty, nothing void]
  · intro values rest filled
    rw [useItems_filled filled]
    cases own with
    | nil =>
      cases values with
      | nil => exact absurd rfl filled
      | cons => simp [line]
    | cons => simp [line]

/-- The texts of the constant end at the bracket that closes the list. -/
theorem recovers_listed : Recovers
    (List.flatMap fun value : Value => (", " ++ value.code).toList) (List.map id) (∀ value ∈ ·, Spoken value)
    (fun rest => rest.head? = some ']') := by
  have each : Recovers (fun value : Value => (", " ++ value.code).toList) id Spoken (fun _ => True) := by
    intro value other spoken speaks rest more after later same
    simp only [String.toList_append, List.append_assoc] at same
    exact recovers_string spoken speaks after later (List.append_cancel_left same)
  apply each.flatMap
  · exact fun _ _ _ => trivial
  · exact fun _ _ => trivial
  · intro value rest _ closed
    simp at closed

theorem otherImports_cons (value : Value) (values : List Value) :
    (otherImports (value :: values)).toList =
      "pub const IMPORTS: &[&str] = &[".toList ++
        (value.code.toList ++ ((values.flatMap fun value => (", " ++ value.code).toList) ++ "];\n\n".toList)) := by
  rw [otherImports, if_neg (by simp)]
  simp only [line, String.toList_append, toList_separated, List.append_assoc]
  rfl

theorem recovers_otherImports : Recovers (fun values => (otherImports values).toList) id
    (∀ value ∈ ·, Spoken value) (fun rest => "pub f".toList <+: rest) := by
  refine Recovers.orNothing (· ≠ []) ?_ ?_ ?_ ?_
  · rintro values others ⟨spoken, filled⟩ ⟨speaks, full⟩ rest more _ _ same
    obtain ⟨value, values, rfl⟩ := List.exists_cons_of_ne_nil filled
    obtain ⟨other, others, rfl⟩ := List.exists_cons_of_ne_nil full
    obtain ⟨first, spoken⟩ := List.forall_mem_cons.mp spoken
    obtain ⟨second, speaks⟩ := List.forall_mem_cons.mp speaks
    simp only [otherImports_cons, List.append_assoc] at same
    obtain ⟨firsts, same⟩ := recovers_string first second trivial trivial (List.append_cancel_left same)
    obtain ⟨values, same⟩ := recovers_listed spoken speaks (by simp) (by simp) same
    rw [List.map_id, List.map_id] at values
    rw [id, id] at firsts
    exact ⟨by rw [firsts, values], List.append_cancel_left same⟩
  · intro values empty
    rw [Classical.not_not.mp empty]
    rfl
  · intro values others empty void
    rw [Classical.not_not.mp empty, Classical.not_not.mp void]
  · intro values rest filled
    obtain ⟨value, values, rfl⟩ := List.exists_cons_of_ne_nil filled
    rw [otherImports_cons]
    simp

/-! The whole file. -/

theorem signature_starts (registry label : String) (rest : List Char) :
    "pub f".toList <+: (line 0 (signature registry label)).toList ++ rest := by
  simp [line, signature]

/-- What follows the `use` items, whether there is a constant or not. -/
theorem otherImports_starts (values : List Value) {rest : List Char} (follows : "pub f".toList <+: rest) :
    ((otherImports values).toList ++ rest).head? = some 'p' := by
  cases values with
  | nil =>
    obtain ⟨more, rfl⟩ := follows
    rfl
  | cons => simp [otherImports, line]

/-- Two documents of one namespace with the same code have the same imports and, up to absent texts, the same
routes. -/
theorem render_injective {source text label registry : String} {dialect spoken : Dialect}
    {document other : Document} (parsed : parse source label dialect = .ok document)
    (read : parse text label spoken = .ok other)
    (plain : ∀ value ∈ document.values, value.isLiteral = true → '\x22' ∉ value.text.toList ∧ '\n' ∉ value.text.toList)
    (suits : ∀ value ∈ other.values, value.isLiteral = true → '\x22' ∉ value.text.toList ∧ '\n' ∉ value.text.toList)
    (same : render registry document = render registry other) :
    document.imports.filter isUse = other.imports.filter isUse ∧
      document.imports.filter (!isUse ·) = other.imports.filter (!isUse ·) ∧
      document.routes.map Route.filled = other.routes.map Route.filled := by
  have derived := (parse_eq_ok_iff.mp parsed).2
  have reads := (parse_eq_ok_iff.mp read).2
  have labels : document.label = other.label := derived.label_eq.trans reads.label_eq.symm
  have used {document : Document} : ∀ value ∈ document.imports.filter isUse, isUse value = true :=
    fun _ member => (List.mem_filter.mp member).2
  have unused {document : Document} (regular : document.Regular) :
      ∀ value ∈ document.imports.filter (!isUse ·), Spoken value :=
    fun value member => regular.imports value (List.mem_filter.mp member).1
  have routes {document : Document} (regular : document.Regular) (plain : ∀ value ∈ document.values, Plain value) :
      ∀ route ∈ document.routes, PlainRoute route := by
    intro route member
    refine ⟨regular.routes route member, ?_⟩
    intro value held
    apply plain
    rw [Document.values, List.mem_append, List.mem_flatMap]
    exact .inr ⟨route, member, held⟩
  replace same := congrArg String.toList same
  simp only [render, usePaths, toList_concat, String.toList_append, List.append_assoc, labels] at same
  replace same := List.append_cancel_left (List.append_cancel_left same)
  obtain ⟨uses, same⟩ := recovers_useItems _ used used (otherImports_starts _ (signature_starts ..))
    (otherImports_starts _ (signature_starts ..)) same
  obtain ⟨others, same⟩ := recovers_otherImports (unused derived.regular) (unused reads.regular) (signature_starts ..)
    (signature_starts ..) same
  replace same := List.append_cancel_left same
  obtain ⟨routes, _⟩ := recovers_routes (routes derived.regular plain) (routes reads.regular suits) rfl rfl same
  exact ⟨uses, others, routes⟩

/-- A handler and a default that look like further calls, imports in another order, and texts that are left out
in one of the documents and empty in the other. -/
theorem render_injective_absent :
    let source := "IMPORT a::b 'c d' ROUTE DOES «f, g).does(h» USING p «1).from(2);» FROM q"
    let text := "IMPORT 'c d' a::b ROUTE '' '' DOES «f, g).does(h» '' USING p «1).from(2);» FROM q"
    ∃ document other, parse source "m" .strict = .ok document ∧ parse text "m" .strict = .ok other ∧
      document ≠ other ∧ document.imports.filter isUse = other.imports.filter isUse ∧
      document.imports.filter (!isUse ·) = other.imports.filter (!isUse ·) ∧
      document.routes.map Route.filled = other.routes.map Route.filled := by
  intro source text
  let param : Param := ⟨.string "p", some (.literal "1).from(2);"), [.string "q"]⟩
  let document : Document := ⟨"m", [.string "a::b", .string "c d"],
    [⟨none, none, [.invoke ⟨.literal "f, g).does(h", none, [param]⟩]⟩]⟩
  let other : Document := ⟨"m", [.string "c d", .string "a::b"],
    [⟨some (.string ""), some (.string ""), [.invoke ⟨.literal "f, g).does(h", some (.string ""), [param]⟩]⟩]⟩
  have scanned : Scan.ofText source =
      ⟨[⟨.keyword .importWord, 0, 6⟩, ⟨.string "a::b", 7, 11⟩, ⟨.string "c d", 12, 17⟩,
        ⟨.keyword .routeWord, 18, 23⟩, ⟨.keyword .doesWord, 24, 28⟩, ⟨.literal "f, g).does(h", 29, 45⟩,
        ⟨.keyword .usingWord, 46, 51⟩, ⟨.string "p", 52, 53⟩, ⟨.literal "1).from(2);", 54, 69⟩,
        ⟨.keyword .fromWord, 70, 74⟩, ⟨.string "q", 75, 76⟩], none⟩ := by decide +kernel
  have emptied : Scan.ofText text =
      ⟨[⟨.keyword .importWord, 0, 6⟩, ⟨.string "c d", 7, 12⟩, ⟨.string "a::b", 13, 17⟩,
        ⟨.keyword .routeWord, 18, 23⟩, ⟨.string "", 24, 26⟩, ⟨.string "", 27, 29⟩,
        ⟨.keyword .doesWord, 30, 34⟩, ⟨.literal "f, g).does(h", 35, 51⟩, ⟨.string "", 52, 54⟩,
        ⟨.keyword .usingWord, 55, 60⟩, ⟨.string "p", 61, 62⟩, ⟨.literal "1).from(2);", 63, 78⟩,
        ⟨.keyword .fromWord, 79, 83⟩, ⟨.string "q", 84, 85⟩], none⟩ := by decide +kernel
  have parsed : parse source "m" .strict = .ok document := by
    simp only [parse, scanned]
    rfl
  have read : parse text "m" .strict = .ok other := by
    simp only [parse, emptied]
    rfl
  have same : render "Registry" document = render "Registry" other := by decide +kernel
  exact ⟨document, other, parsed, read, by decide, render_injective parsed read (by decide) (by decide) same⟩

end RouteDoc.Registration
