import Mathlib.Data.List.Infix
import RouteDoc.Proofs.StatementLines
import RouteDoc.Proofs.UseItems

/-! What stands before the function in generated code. Each import of a document is a path or it is not; the paths
are `use` items in their order, and all other texts are in the constant in theirs. -/

namespace RouteDoc.Registration
open Text

variable {cs : List Char}

/-! Paths. -/

/-- Identifiers with two colons between them, and perhaps a glob behind these. -/
def PathText (cs : List Char) : Prop :=
  ∃ names, names ≠ [] ∧ (∀ name ∈ names, Identifier reservedWords name) ∧
    (cs = [':', ':'].intercalate names ∨ cs = [':', ':'].intercalate (names ++ [['*']]))

theorem PathText.inside {segment rest : List Char} (identifier : Identifier reservedWords segment)
    (path : PathText rest) : PathText (segment ++ ':' :: ':' :: rest) := by
  obtain ⟨names, filled, each, spelled⟩ := path
  have more : names ++ [['*']] ≠ [] := List.append_ne_nil_of_left_ne_nil filled _
  refine ⟨segment :: names, List.cons_ne_nil _ _, List.forall_mem_cons.mpr ⟨identifier, each⟩, ?_⟩
  rw [List.cons_append, List.intercalate_cons_of_ne_nil filled, List.intercalate_cons_of_ne_nil more]
  exact spelled.imp (fun same => by simp [same]) fun same => by simp [same]

theorem UsePath.pathText (path : UsePath reservedWords cs) : PathText cs := by
  induction path with
  | name identifier =>
    exact ⟨[_], List.cons_ne_nil _ _, List.forall_mem_singleton.mpr identifier, .inl List.intercalate_singleton.symm⟩
  | glob identifier =>
    exact ⟨[_], List.cons_ne_nil _ _, List.forall_mem_singleton.mpr identifier, .inr (by simp)⟩
  | inside identifier _ ih => exact ih.inside identifier

theorem usePath_intercalate {names : List (List Char)} (filled : names ≠ [])
    (each : ∀ name ∈ names, Identifier reservedWords name) :
    UsePath reservedWords ([':', ':'].intercalate names) ∧
      UsePath reservedWords ([':', ':'].intercalate (names ++ [['*']])) := by
  induction names with
  | nil => exact absurd rfl filled
  | cons name names ih =>
    obtain ⟨first, others⟩ := List.forall_mem_cons.mp each
    cases names with
    | nil =>
      rw [List.intercalate_singleton]
      exact ⟨.name first, .glob first⟩
    | cons next names =>
      obtain ⟨plain, globbed⟩ := ih (List.cons_ne_nil _ _) others
      rw [List.cons_append, List.cons_append, List.intercalate_cons_cons, List.intercalate_cons_cons,
        List.append_assoc, List.append_assoc]
      exact ⟨.inside first plain, .inside first globbed⟩

theorem isUsePath_iff_pathText (text : String) : isUsePath text = true ↔ PathText text.toList := by
  rw [isUsePath_iff]
  constructor
  · exact UsePath.pathText
  · rintro ⟨names, filled, each, same | same⟩
    · rw [same]
      exact (usePath_intercalate filled each).1
    · rw [same]
      exact (usePath_intercalate filled each).2

theorem hasSeparator_iff : hasSeparator cs = true ↔ [':', ':'] <:+: cs := by
  fun_induction hasSeparator cs with
  | case1 => simp
  | case2 rest => exact iff_of_true rfl ⟨[], rest, rfl⟩
  | case3 c rest apart ih =>
    rw [ih, List.infix_cons_iff]
    refine (or_iff_right ?_).symm
    rintro ⟨more, same⟩
    obtain ⟨rfl, follows⟩ := List.cons.inj same
    exact apart more rfl follows.symm

/-! Imports. -/

/-- Imports told apart: the texts that are paths, and the texts that are not, each in the order of the imports. -/
inductive Parted : List Value → List String → List String → Prop
  | nil : Parted [] [] []
  | path {text : String} {imports : List Value} {paths others : List String} :
      PathText text.toList → Parted imports paths others → Parted (.string text :: imports) (text :: paths) others
  | other {text : String} {imports : List Value} {paths others : List String} :
      ¬ PathText text.toList → Parted imports paths others → Parted (.string text :: imports) paths (text :: others)

variable {text : String} {imports : List Value} {paths others : List String}

theorem parted_path (path : PathText text.toList) : Parted (.string text :: imports) paths others ↔
    ∃ more, paths = text :: more ∧ Parted imports more others := by
  constructor
  · intro parted
    cases parted with
    | path _ rest => exact ⟨_, rfl, rest⟩
    | other foreign => exact absurd path foreign
  · rintro ⟨more, rfl, rest⟩
    exact .path path rest

theorem parted_other (foreign : ¬ PathText text.toList) : Parted (.string text :: imports) paths others ↔
    ∃ more, others = text :: more ∧ Parted imports paths more := by
  constructor
  · intro parted
    cases parted with
    | path path => exact absurd path foreign
    | other _ rest => exact ⟨_, rfl, rest⟩
  · rintro ⟨more, rfl, rest⟩
    exact .other foreign rest

/-- Imports are told apart in one way only. -/
theorem parted_iff (spoken : ∀ value ∈ imports, value.isLiteral = false) : Parted imports paths others ↔
    paths = (imports.filter isUse).map Value.text ∧ others = (imports.filter (!isUse ·)).map Value.text := by
  induction imports generalizing paths others with
  | nil =>
    constructor
    · rintro ⟨⟩
      exact ⟨rfl, rfl⟩
    · rintro ⟨rfl, rfl⟩
      exact .nil
  | cons value imports ih =>
    obtain ⟨first, later⟩ := List.forall_mem_cons.mp spoken
    cases value with
    | literal => cases first
    | string text =>
      have told : isUse (.string text) = true ↔ PathText text.toList := isUsePath_iff_pathText text
      by_cases used : isUse (.string text) = true
      · rw [parted_path (told.mp used)]
        simp [ih later, used, Value.text]
      · rw [parted_other (mt told.mpr used)]
        simp [ih later, used, Value.text, and_comm]

/-! The lines. -/

theorem separated_eq_intercalate (separator : String) (texts : List String) :
    separated separator texts = separator.intercalate texts := by
  fun_induction separated separator texts with
  | case1 => exact String.intercalate_nil.symm
  | case2 => exact String.intercalate_singleton.symm
  | case3 text next rest ih => rw [ih, String.intercalate_cons_cons]

/-- The lines before the function for the paths of the `use` items and the texts of the constant. -/
def preamble (uses others : List String) : List String :=
  header :: "" :: ((if uses = [] then [] else uses.map (fun path => "use " ++ path ++ ";") ++ [""]) ++
    if others = [] then []
    else ["pub const IMPORTS: &[&str] = &[" ++ ", ".intercalate (others.map quoted) ++ "];", ""])

theorem code_eq_quoted {value : Value} (spoken : value.isLiteral = false) : value.code = quoted value.text := by
  cases value with
  | literal => cases spoken
  | string => rfl

theorem toList_preamble (uses : List String) {values : List Value}
    (spoken : ∀ value ∈ values, value.isLiteral = false) :
    (preamble uses (values.map Value.text)).map String.toList =
      row 0 header :: [] :: (useRows uses ++ importRows values) := by
  have codes : values.map Value.code = (values.map Value.text).map quoted := by
    rw [List.map_map]
    exact List.map_congr_left fun value member => code_eq_quoted (spoken value member)
  have row_zero (text : String) : row 0 text = text.toList := rfl
  unfold preamble useRows importRows listing
  simp only [codes, separated_eq_intercalate, row_zero, List.isEmpty_iff, List.map_eq_nil_iff, List.map_cons,
    List.map_append, apply_ite (List.map String.toList), List.map_map, List.map_nil]
  rfl

/-- The imports of a document that was read from a source are told apart, and the lines before the function hold each
of them once. No line but that of the registry's own path can be broken. -/
theorem preamble_render {source label : String} {dialect : Dialect} {document : Document}
    (parsed : parse source label dialect = .ok document) (registry : String) :
    ∃ paths others opening rest, Parted document.imports paths others ∧
      (render registry document).toList =
        ((preamble ((if [':', ':'] <:+: registry.toList then [registry] else []) ++ paths) others).map String.toList ++
          opening :: rest).flatMap (· ++ ['\n']) ∧
      (∀ line ∈ preamble paths others, '\n' ∉ line.toList) ∧ "pub fn ".toList <+: opening := by
  have spoken := (parse_eq_ok_iff.mp parsed).2.regular.imports
  have listed : ∀ value ∈ document.imports.filter (!isUse ·), value.isLiteral = false :=
    fun value member => spoken value (List.mem_filter.mp member).1
  have unbroken : ∀ value ∈ document.imports, Unbroken value := by
    intro value member pasted
    rw [spoken value member] at pasted
    cases pasted
  have rows (registry : String) : preambleRows registry document.imports = (preamble
      ((if [':', ':'] <:+: registry.toList then [registry] else []) ++ (document.imports.filter isUse).map Value.text)
      ((document.imports.filter (!isUse ·)).map Value.text)).map String.toList := by
    rw [toList_preamble _ listed]
    simp only [preambleRows, usePaths, hasSeparator_iff]
  have whole := toList_render registry document
  rw [rows] at whole
  refine ⟨_, _, _, _, (parted_iff spoken).mpr ⟨rfl, rfl⟩, whole, ?_, opens_signature registry document.label⟩
  intro line member
  have kept := @unbroken_preambleRows "" document.imports (by decide) unbroken
  rw [rows] at kept
  exact kept _ (List.mem_map_of_mem member)

/-- A path that is imported twice, a glob, and texts that are split at colons but are no paths. -/
theorem preamble_render_colons :
    let source := "IMPORT 'a::b' 'a:::b' '::a' 'a::*' '*' 'a::b' 'x\n'"
    ∃ document opening rest, parse source "m" .strict = .ok document ∧
      (render "web::Registry" document).toList =
        ((preamble ["web::Registry", "a::b", "a::*", "a::b"] ["a:::b", "::a", "*", "x\n"]).map String.toList ++
          opening :: rest).flatMap (· ++ ['\n']) ∧ "pub fn ".toList <+: opening := by
  intro source
  let document : Document := ⟨"m", [.string "a::b", .string "a:::b", .string "::a", .string "a::*", .string "*",
    .string "a::b", .string "x\n"], []⟩
  have scanned : Scan.ofText source =
      ⟨[⟨.keyword .importWord, 0, 6⟩, ⟨.string "a::b", 7, 13⟩, ⟨.string "a:::b", 14, 21⟩, ⟨.string "::a", 22, 27⟩,
        ⟨.string "a::*", 28, 34⟩, ⟨.string "*", 35, 38⟩, ⟨.string "a::b", 39, 45⟩, ⟨.string "x\n", 46, 50⟩],
        none⟩ := by decide +kernel
  have parsed : parse source "m" .strict = .ok document := by
    simp only [parse, scanned]
    rfl
  obtain ⟨paths, others, opening, rest, parted, lines, _, opens⟩ := preamble_render parsed "web::Registry"
  obtain ⟨used, listed⟩ := (parted_iff (by decide)).mp parted
  have paths_eq : paths = ["a::b", "a::*", "a::b"] := used.trans (by decide +kernel)
  have others_eq : others = ["a:::b", "::a", "*", "x\n"] := listed.trans (by decide +kernel)
  have own : [':', ':'] <:+: "web::Registry".toList := hasSeparator_iff.mp (by decide)
  rw [paths_eq, others_eq, if_pos own] at lines
  exact ⟨document, opening, rest, parsed, lines, opens⟩

end RouteDoc.Registration
