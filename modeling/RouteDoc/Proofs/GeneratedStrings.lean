import RouteDoc.Document.Outline
import RouteDoc.Proofs.FunctionNames
import RouteDoc.Proofs.PrintedDocuments
import RouteDoc.Proofs.QuotedTexts
import RouteDoc.Proofs.RegularParts

/-! No string of a document leaves its literal in the generated code. Each piece of code is followed through
with the texts of the literals in it and with what is left of it when these are emptied; what is left is the
code of the outline. -/

namespace RouteDoc.Registration
open Text Code

/-! Code without string literals. -/

theorem not_mem_beforeSeparator {c : Char} {cs : List Char} (absent : c ∉ cs) : c ∉ beforeSeparator cs := by
  fun_induction beforeSeparator cs with
  | case1 => exact absent
  | case2 => exact List.not_mem_nil
  | case3 d cs _ ih =>
    obtain ⟨other, others⟩ := List.ne_and_not_mem_of_not_mem_cons absent
    exact List.not_mem_cons_of_ne_of_not_mem other (ih others)

/-- A character of the line that opens the function is one of a name, of the registry's path, or of what stands around
these. -/
theorem not_mem_signature {c : Char} (foreign : isNameChar c = false)
    (apart : c ∉ "pub fn (reg: &mut ) \x7b".toList) {registry : String} (absent : c ∉ registry.toList)
    (label : String) : c ∉ (signature registry label).toList := by
  have reversed : c ∉ registry.toList.reverse := by rwa [List.mem_reverse]
  have typed := not_mem_beforeSeparator reversed
  have named : c ∉ (functionName label).toList := by
    intro member
    rw [isNameChar_functionName member] at foreign
    cases foreign
  simp at apart
  simp [signature, typeName, named, typed, apart]

theorem mem_segments {c : Char} {cs : List Char} (member : c ∈ cs) :
    c = ':' ∨ ∃ segment ∈ segments cs, c ∈ segment := by
  fun_induction segments cs with
  | case1 => cases member
  | case2 rest ih =>
    rcases List.mem_cons.mp member with first | member
    · exact .inl first
    rcases List.mem_cons.mp member with first | member
    · exact .inl first
    rcases ih member with colon | ⟨segment, inside, found⟩
    · exact .inl colon
    · exact .inr ⟨segment, List.mem_cons_of_mem _ inside, found⟩
  | case3 d rest _ none ih =>
    rcases List.mem_cons.mp member with first | member
    · exact .inr ⟨[d], List.mem_singleton_self _, List.mem_singleton.mpr first⟩
    rcases ih member with colon | ⟨segment, inside, _⟩
    · exact .inl colon
    · rw [none] at inside
      cases inside
  | case4 d rest _ first others split ih =>
    rcases List.mem_cons.mp member with same | member
    · exact .inr ⟨d :: first, List.mem_cons_self, List.mem_cons.mpr (.inl same)⟩
    rcases ih member with colon | ⟨segment, inside, found⟩
    · exact .inl colon
    rw [split] at inside
    rcases List.mem_cons.mp inside with same | inside
    · subst same
      exact .inr ⟨d :: segment, List.mem_cons_self, List.mem_cons_of_mem d found⟩
    · exact .inr ⟨segment, List.mem_cons_of_mem _ inside, found⟩

theorem not_mem_identifier {c : Char} (foreign : continuesIdentifier c = false) {segment : List Char}
    (valid : isIdentifier segment = true) : c ∉ segment := by
  unfold isIdentifier at valid
  split at valid
  next => cases valid
  next first rest =>
    simp only [Bool.and_eq_true, List.all_eq_true] at valid
    obtain ⟨⟨⟨starts, continues⟩, _⟩, _⟩ := valid
    have follows : continuesIdentifier first = true := by
      simp only [startsIdentifier, continuesIdentifier, Char.isAlphanum, Bool.or_eq_true] at starts ⊢
      exact starts.imp_left .inl
    intro member
    have named : continuesIdentifier c = true := by
      rcases List.mem_cons.mp member with same | member
      · rwa [same]
      · exact continues c member
    rw [foreign] at named
    cases named

theorem not_mem_path {c : Char} (foreign : continuesIdentifier c = false) (glob : c ≠ '*')
    {parts : List (List Char)} (valid : isPath parts = true) : ∀ segment ∈ parts, c ∉ segment := by
  fun_induction isPath parts with
  | case1 => exact List.forall_mem_nil _
  | case2 last =>
    intro segment member
    obtain rfl := List.mem_singleton.mp member
    rcases Bool.or_eq_true_iff.mp valid with named | star
    · exact not_mem_identifier foreign named
    · rw [eq_of_beq star]
      simpa using glob
  | case3 segment rest _ ih =>
    obtain ⟨first, others⟩ := Bool.and_eq_true_iff.mp valid
    exact List.forall_mem_cons.mpr ⟨not_mem_identifier foreign first, ih others⟩

/-- A path is made of identifiers, colons and a glob. -/
theorem not_mem_usePath {c : Char} (foreign : continuesIdentifier c = false) (glob : c ≠ '*') (colon : c ≠ ':')
    {path : String} (valid : isUsePath path = true) : c ∉ path.toList := by
  have plain : ∀ segment ∈ segments path.toList, c ∉ segment := by
    unfold isUsePath at valid
    split at valid
    next only single =>
      rw [single]
      intro segment member
      rw [List.mem_singleton.mp member]
      exact not_mem_identifier foreign valid
    next => exact not_mem_path foreign glob valid
  intro member
  rcases mem_segments member with same | ⟨segment, inside, found⟩
  · exact colon same
  · exact plain segment inside found

/-! Values and the calls that they stand in. -/

theorem holds_string {value : Value} (spoken : value.isLiteral = false) :
    Holds value.code [value.text] value.outline.code := by
  cases value with
  | literal => cases spoken
  | string text => exact Holds.quoted text

/-- No double quote stands in the value if it is a literal. -/
def Unquoted (value : Value) : Prop := value.isLiteral = true → '\x22' ∉ value.text.toList

theorem holds_literal {value : Value} (pasted : value.isLiteral = true) (unquoted : Unquoted value) :
    Holds value.code [] value.outline.code := by
  cases value with
  | literal text => exact Holds.plain (unquoted rfl)
  | string => cases pasted

theorem holds_codeOrEmpty {value : Option Value} (spoken : ∀ given ∈ value, given.isLiteral = false) :
    Holds (codeOrEmpty value) [Value.textOrEmpty value] (codeOrEmpty (some (Value.outlineOrEmpty value))) := by
  cases value with
  | none => exact Holds.quoted ""
  | some given => exact holds_string (spoken given rfl)

/-- A call with code around what it is given. -/
theorem holds_between {first last code blanked : String} {texts : List String} (opening : '\x22' ∉ first.toList)
    (closing : '\x22' ∉ last.toList) (holds : Holds code texts blanked) :
    Holds (first ++ code ++ last) texts (first ++ blanked ++ last) := by
  have whole := ((Holds.plain opening).append holds).append (Holds.plain closing)
  simpa using whole

theorem holds_defaultCall {default : Option Value} (unquoted : ∀ value ∈ default, Unquoted value) :
    Holds (defaultCall default) ((default.toList.filter (!·.isLiteral)).map Value.text)
      (defaultCall (default.map Value.outline)) := by
  cases default with
  | none => exact Holds.plain (by decide)
  | some value =>
    apply holds_between (by decide) (by decide)
    cases value with
    | literal text => exact Holds.plain (unquoted _ rfl rfl)
    | string text => exact Holds.quoted text

theorem holds_usingCall {param : Param} (regular : param.Regular) (unquoted : ∀ value ∈ param.values, Unquoted value) :
    Holds (usingCall param) param.texts (usingCall param.outline) := by
  have named : Holds (".using(" ++ param.name.code ++ ")") [param.name.text]
      (".using(" ++ param.name.outline.code ++ ")") :=
    holds_between (by decide) (by decide) (holds_string regular.name)
  have defaulted : ∀ value ∈ param.default, Unquoted value := by
    intro value member
    exact unquoted value (Param.mem_values_of_default member)
  have sourced : ∀ source ∈ param.sources, Holds (sourceCall source) [source.text] (sourceCall source.outline) := by
    intro source member
    exact holds_between (by decide) (by decide) (holds_string (regular.sources source member))
  have whole := (named.append (holds_defaultCall defaulted)).append (Holds.concat sourced)
  simpa [usingCall, Param.outline, Param.texts, Function.comp_def, ← List.map_eq_flatMap] using whole

theorem holds_doesCall {invocation : Invoke} (regular : invocation.Regular) (unquoted : Unquoted invocation.handler) :
    Holds (doesCall invocation) [Value.textOrEmpty invocation.name]
      (doesCall { handler := invocation.handler.outline, name := some (Value.outlineOrEmpty invocation.name) }) := by
  have handled : Holds (".does(" ++ invocation.handler.code ++ ", ") []
      (".does(" ++ invocation.handler.outline.code ++ ", ") :=
    holds_between (by decide) (by decide) (holds_literal regular.handler unquoted)
  exact (handled.append (holds_codeOrEmpty regular.name)).append (Holds.plain (by decide))

/-! Lines and statements. -/

theorem holds_line (depth : Nat) {code blanked : String} {texts : List String} (holds : Holds code texts blanked) :
    Holds (line depth code) texts (line depth blanked) := by
  apply holds_between _ (by decide) holds
  rw [String.toList_ofList]
  intro member
  cases List.eq_of_mem_replicate member

/-- Lines whose literals have the given texts, and the lines that are left when these are emptied. -/
inductive LinesHold : List (Nat × String) → List String → List (Nat × String) → Prop
  | nil : LinesHold [] [] []
  | cons {depth : Nat} {code blanked : String} {texts more : List String} {lines others : List (Nat × String)} :
      Holds code texts blanked → LinesHold lines more others →
      LinesHold ((depth, code) :: lines) (texts ++ more) ((depth, blanked) :: others)

namespace LinesHold
variable {α : Type} {items : List α} {texts : α → List String}

theorem append {lines others following left : List (Nat × String)} {texts more : List String}
    (first : LinesHold lines texts others) (second : LinesHold following more left) :
    LinesHold (lines ++ following) (texts ++ more) (others ++ left) := by
  induction first with
  | nil => exact second
  | cons holds _ ih =>
    rw [List.append_assoc]
    exact .cons holds ih

theorem flatMap {lines others : α → List (Nat × String)}
    (each : ∀ item ∈ items, LinesHold (lines item) (texts item) (others item)) :
    LinesHold (items.flatMap lines) (items.flatMap texts) (items.flatMap others) := by
  induction items with
  | nil => exact .nil
  | cons item items ih =>
    obtain ⟨first, later⟩ := List.forall_mem_cons.mp each
    exact first.append (ih later)

theorem map (depth : Nat) {code blanked : α → String}
    (each : ∀ item ∈ items, Holds (code item) (texts item) (blanked item)) :
    LinesHold (items.map fun item => (depth, code item)) (items.flatMap texts)
      (items.map fun item => (depth, blanked item)) := by
  induction items with
  | nil => exact .nil
  | cons item items ih =>
    obtain ⟨first, later⟩ := List.forall_mem_cons.mp each
    exact .cons first (ih later)

theorem statement {lines others : List (Nat × String)} {texts : List String} (holds : LinesHold lines texts others) :
    Holds (statement lines) texts (statement others) := by
  induction holds with
  | nil => exact Holds.plain (by decide)
  | @cons depth code blanked texts more lines others first later ih =>
    cases later with
    | nil =>
      have ended := first.append (@Holds.plain ";" (by decide))
      exact holds_line depth ended
    | cons => exact (holds_line depth first).append ih

end LinesHold

theorem holds_commandLines {command : Command} (regular : command.Regular)
    (unquoted : ∀ value ∈ command.values, Unquoted value) :
    LinesHold (commandLines command) command.texts (commandLines command.outline) := by
  cases command with
  | includes name => exact .cons (holds_between (by decide) (by decide) (holds_string regular)) .nil
  | invoke invocation =>
    have handler := unquoted invocation.handler List.mem_cons_self
    have bound : ∀ param ∈ invocation.params, Holds (usingCall param) param.texts (usingCall param.outline) := by
      intro param member
      apply holds_usingCall (regular.params param member)
      intro value held
      exact unquoted value (Command.mem_values_of_param member held)
    have whole := @LinesHold.cons 2 _ _ _ _ _ _ (holds_doesCall regular handler) (LinesHold.map 3 bound)
    simpa [commandLines, Command.texts, Command.outline, doesCall, Function.comp_def] using whole

theorem holds_route {route : Route} (regular : route.Regular) (unquoted : ∀ value ∈ route.values, Unquoted value) :
    Holds (statement (routeLines route)) route.texts (statement (routeLines route.outline)) := by
  have opened : Holds ("reg.route(" ++ codeOrEmpty route.name ++ ", ") [Value.textOrEmpty route.name]
      ("reg.route(" ++ codeOrEmpty (some (Value.outlineOrEmpty route.name)) ++ ", ") :=
    holds_between (by decide) (by decide) (holds_codeOrEmpty regular.name)
  have described := (opened.append (holds_codeOrEmpty regular.description)).append (@Holds.plain ")" (by decide))
  have commanded : ∀ command ∈ route.commands,
      LinesHold (commandLines command) command.texts (commandLines command.outline) := by
    intro command member
    apply holds_commandLines (regular.commands command member)
    intro value held
    exact unquoted value (Route.mem_values_of_command member held)
  have whole := @LinesHold.cons 1 _ _ _ _ _ _ described (.flatMap commanded)
  apply LinesHold.statement
  simpa [routeLines, Route.texts, Route.outline, List.flatMap_map] using whole

/-! The document. -/

/-- An import as it is blanked: a path is code, anything else is a string. -/
def blankImport (value : Value) : Value := if isUse value then value else value.outline

theorem isUse_outline (value : Value) : isUse value.outline = false := by
  cases value with
  | literal => rfl
  | string => exact (by decide : isUse (.string "") = false)

theorem filter_isUse_blankImport (imports : List Value) :
    (imports.map blankImport).filter isUse = imports.filter isUse := by
  induction imports with
  | nil => rfl
  | cons value imports ih =>
    rw [List.map_cons, blankImport]
    by_cases path : isUse value = true
    · rw [if_pos path, List.filter_cons_of_pos path, List.filter_cons_of_pos path, ih]
    · rw [if_neg path, List.filter_cons_of_neg (by simp [isUse_outline]), List.filter_cons_of_neg path, ih]

theorem filter_not_isUse_blankImport (imports : List Value) :
    (imports.map blankImport).filter (!isUse ·) = (imports.filter (!isUse ·)).map Value.outline := by
  induction imports with
  | nil => rfl
  | cons value imports ih =>
    rw [List.map_cons, blankImport]
    by_cases path : isUse value = true
    · rw [if_pos path, List.filter_cons_of_neg (by simp [path]), List.filter_cons_of_neg (by simp [path]), ih]
    · rw [if_neg path, List.filter_cons_of_pos (by simp [isUse_outline]), List.filter_cons_of_pos (by simp [path]),
        ih, List.map_cons]

theorem unquoted_usePaths {registry : String} (path : '\x22' ∉ registry.toList) (imports : List Value) :
    ∀ used ∈ usePaths registry imports, '\x22' ∉ used.toList := by
  intro used member
  rcases List.mem_append.mp member with own | imported
  · split at own
    next => rwa [List.mem_singleton.mp own]
    next => cases own
  · obtain ⟨value, filtered, rfl⟩ := List.mem_map.mp imported
    have valid := (Bool.and_eq_true_iff.mp (List.mem_filter.mp filtered).2).2
    exact not_mem_usePath (by decide) (by decide) (by decide) valid

theorem holds_useItems {paths : List String} (unquoted : ∀ path ∈ paths, '\x22' ∉ path.toList) :
    Holds (useItems paths) [] (useItems paths) := by
  unfold useItems
  split
  next => exact Holds.plain (by decide)
  next =>
    have each : ∀ path ∈ paths, Holds (line 0 ("use " ++ path ++ ";")) [] (line 0 ("use " ++ path ++ ";")) := by
      intro path member
      exact holds_line 0 (holds_between (by decide) (by decide) (Holds.plain (unquoted path member)))
    have whole := (Holds.concat each).append (@Holds.plain "\n" (by decide))
    have nothing : paths.flatMap (fun _ => ([] : List String)) = [] := List.flatMap_eq_nil_iff.mpr fun _ _ => rfl
    rwa [nothing] at whole

theorem holds_otherImports {values : List Value} (spoken : ∀ value ∈ values, value.isLiteral = false) :
    Holds (otherImports values) (values.map Value.text) (otherImports (values.map Value.outline)) := by
  unfold otherImports
  rw [List.isEmpty_map]
  split
  next none =>
    rw [List.isEmpty_iff.mp none]
    exact Holds.plain (by decide)
  next =>
    have each : ∀ value ∈ values, Holds value.code [value.text] value.outline.code := by
      intro value member
      exact holds_string (spoken value member)
    have listed := @Holds.separated _ _ _ _ _ ", " (by decide) each
    have constant := @holds_between "pub const IMPORTS: &[&str] = &[" "];" _ _ _ (by decide) (by decide) listed
    have whole := (holds_line 0 constant).append (@Holds.plain "\n" (by decide))
    simpa [Function.comp_def, ← List.map_eq_flatMap] using whole

/-- The document whose code is the blanked code of any document with the given outline. -/
def blank (outline : Document) : Document := { outline with imports := outline.imports.map blankImport }

theorem holds_render {registry : String} {document : Document} (regular : document.Regular)
    (path : '\x22' ∉ registry.toList) (unquoted : ∀ value ∈ document.values, Unquoted value) :
    Holds (render registry document) (texts document) (render registry (blank document.outline)) := by
  have opened : Holds (line 0 header ++ "\n") [] (line 0 header ++ "\n") := Holds.plain (by decide)
  have used := holds_useItems (unquoted_usePaths path document.imports)
  have others : ∀ value ∈ document.imports.filter (!isUse ·), value.isLiteral = false := by
    intro value member
    exact regular.imports value (List.mem_filter.mp member).1
  have signed := holds_line 0 (Holds.plain (not_mem_signature (by decide) (by decide) path document.label))
  have routed : ∀ route ∈ document.routes,
      Holds (statement (routeLines route)) route.texts (statement (routeLines route.outline)) := by
    intro route member
    apply holds_route (regular.routes route member)
    intro value held
    exact unquoted value (Document.mem_values_of_route member held)
  have closed : Holds (line 0 "\x7d") [] (line 0 "\x7d") := Holds.plain (by decide)
  have whole := ((((opened.append used).append (holds_otherImports others)).append signed).append
    (Holds.concat routed)).append closed
  simpa [render, texts, blank, Document.outline, usePaths, filter_isUse_blankImport, filter_not_isUse_blankImport,
    Function.comp_def] using whole

/-- The code of a document that was read from a source holds the strings of the document as its literals, and
without their texts it tells nothing about them. -/
theorem literals_render {source label registry : String} {dialect : Dialect} {document : Document}
    (parsed : parse source label dialect = .ok document) (path : '\x22' ∉ registry.toList)
    (unquoted : ∀ value ∈ document.values, value.isLiteral = true → '\x22' ∉ value.text.toList) :
    literals? (render registry document) = some (texts document) ∧
      ∀ (source label : String) (dialect : Dialect) (other : Document), parse source label dialect = .ok other →
        (∀ value ∈ other.values, value.isLiteral = true → '\x22' ∉ value.text.toList) →
        other.outline = document.outline →
        blanked? (render registry other) = blanked? (render registry document) := by
  have holds {source label : String} {dialect : Dialect} {document : Document}
      (parsed : parse source label dialect = .ok document)
      (unquoted : ∀ value ∈ document.values, value.isLiteral = true → '\x22' ∉ value.text.toList) :
      Code.read (render registry document).toList =
        some ⟨texts document, (render registry (blank document.outline)).toList⟩ :=
    (holds_render (parse_eq_ok_iff.mp parsed).2.regular path unquoted).reading
  constructor
  · rw [literals?, holds parsed unquoted]
    rfl
  · intro source label dialect other read plain same
    rw [blanked?, blanked?, holds parsed unquoted, holds read plain, same]
    rfl

/-- Strings that would end their literals, and a name and a description that only one of two documents has. -/
theorem literals_render_hostile :
    let source := "IMPORT a '\";' ROUTE '\\\\\"' DOES «f» '\n' USING \u0301 «1» FROM \"'\""
    let plain := "IMPORT a '\";' ROUTE r s DOES «f» USING p «1» FROM q"
    ∃ document other, parse source "m" .strict = .ok document ∧ parse plain "m" .strict = .ok other ∧
      Code.literals? (render "web::Registry" document) = some ["\";", "\\\"", "", "\n", "\u0301", "'"] ∧
      Code.blanked? (render "web::Registry" other) = Code.blanked? (render "web::Registry" document) := by
  intro source plain
  let imports : List Value := [.string "a", .string "\";"]
  let document : Document := ⟨"m", imports, [⟨some (.string "\\\""), none,
    [.invoke ⟨.literal "f", some (.string "\n"),
      [⟨.string "\u0301", some (.literal "1"), [.string "'"]⟩]⟩]⟩]⟩
  let other : Document := ⟨"m", imports, [⟨some (.string "r"), some (.string "s"),
    [.invoke ⟨.literal "f", none, [⟨.string "p", some (.literal "1"), [.string "q"]⟩]⟩]⟩]⟩
  have scanned : Scan.ofText source =
      ⟨[⟨.keyword .importWord, 0, 6⟩, ⟨.string "a", 7, 8⟩, ⟨.string "\";", 9, 13⟩,
        ⟨.keyword .routeWord, 14, 19⟩, ⟨.string "\\\"", 20, 25⟩, ⟨.keyword .doesWord, 26, 30⟩,
        ⟨.literal "f", 31, 36⟩, ⟨.string "\n", 37, 40⟩, ⟨.keyword .usingWord, 41, 46⟩,
        ⟨.string "\u0301", 47, 49⟩, ⟨.literal "1", 50, 55⟩, ⟨.keyword .fromWord, 56, 60⟩,
        ⟨.string "'", 61, 64⟩], none⟩ := by decide +kernel
  have plainly : Scan.ofText plain =
      ⟨[⟨.keyword .importWord, 0, 6⟩, ⟨.string "a", 7, 8⟩, ⟨.string "\";", 9, 13⟩,
        ⟨.keyword .routeWord, 14, 19⟩, ⟨.string "r", 20, 21⟩, ⟨.string "s", 22, 23⟩,
        ⟨.keyword .doesWord, 24, 28⟩, ⟨.literal "f", 29, 34⟩, ⟨.keyword .usingWord, 35, 40⟩,
        ⟨.string "p", 41, 42⟩, ⟨.literal "1", 43, 48⟩, ⟨.keyword .fromWord, 49, 53⟩,
        ⟨.string "q", 54, 55⟩], none⟩ := by decide +kernel
  have parsed : parse source "m" .strict = .ok document := by
    simp only [parse, scanned]
    rfl
  have read : parse plain "m" .strict = .ok other := by
    simp only [parse, plainly]
    rfl
  obtain ⟨texts, blanked⟩ :=
    @literals_render source "m" "web::Registry" .strict document parsed (by decide) (by decide)
  refine ⟨document, other, parsed, read, ?_, ?_⟩
  · rw [texts]
    decide
  · exact blanked plain "m" .strict other read (by decide) rfl

end RouteDoc.Registration
