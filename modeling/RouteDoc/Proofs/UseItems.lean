import RouteDoc.Output.UsePath
import RouteDoc.Proofs.GeneratedStrings

/-! Which imports become `use` items. A text is split at its pairs of colons, and it is split back into the segments
that it was put together from as long as these hold no colon; so the test of the segments is a test of the path. -/

namespace RouteDoc.Registration
open Text

variable {words : List String} {segment cs : List Char}

/-! Segments. -/

theorem segments_cons {c : Char} (solid : c ≠ ':') (rest : List Char) :
    segments (c :: rest) = match segments rest with
      | [] => [[c]]
      | first :: others => (c :: first) :: others :=
  segments.eq_3 c rest fun _ colon _ => solid colon

theorem segments_of_notMem (whole : ':' ∉ cs) : segments cs = [cs] := by
  induction cs with
  | nil => rfl
  | cons c cs ih =>
    obtain ⟨solid, whole⟩ := List.ne_and_not_mem_of_not_mem_cons whole
    rw [segments_cons solid.symm, ih whole]

theorem segments_append (whole : ':' ∉ segment) (rest : List Char) :
    segments (segment ++ ':' :: ':' :: rest) = segment :: segments rest := by
  induction segment with
  | nil => rw [List.nil_append, segments]
  | cons c segment ih =>
    obtain ⟨solid, whole⟩ := List.ne_and_not_mem_of_not_mem_cons whole
    rw [List.cons_append, segments_cons solid.symm, ih whole]

theorem segments_ne_nil (cs : List Char) : segments cs ≠ [] := by
  fun_cases segments cs <;> simp

/-- The segments of a text, with two colons between them, are the text. -/
theorem intercalate_segments (cs : List Char) : [':', ':'].intercalate (segments cs) = cs := by
  fun_induction segments cs with
  | case1 => rfl
  | case2 rest ih => rw [List.intercalate_cons_of_ne_nil (segments_ne_nil rest), ih]; rfl
  | case3 c rest _ none => exact absurd none (segments_ne_nil rest)
  | case4 c rest _ first others split ih =>
    rw [split] at ih
    cases others with
    | nil => rw [List.intercalate_singleton] at ih ⊢; rw [ih]
    | cons next others => rw [List.intercalate_cons_cons] at ih ⊢; rw [← ih]; rfl

/-! Identifiers. -/

theorem isIdentifier_iff : isIdentifier segment = true ↔ Identifier reservedWords segment := by
  unfold isIdentifier
  constructor
  · intro valid
    split at valid
    next => cases valid
    next c rest =>
      simp only [Bool.and_eq_true, List.all_eq_true, bne_iff_ne, Bool.not_eq_true', List.contains_eq_mem,
        decide_eq_false_iff_not] at valid
      obtain ⟨⟨⟨starts, continues⟩, named⟩, free⟩ := valid
      exact ⟨⟨c, rest, rfl, starts, continues⟩, named, free⟩
  · rintro ⟨⟨c, rest, rfl, starts, continues⟩, named, free⟩
    simp only [Bool.and_eq_true, List.all_eq_true, bne_iff_ne, Bool.not_eq_true', List.contains_eq_mem,
      decide_eq_false_iff_not]
    exact ⟨⟨⟨starts, continues⟩, named⟩, free⟩

theorem Identifier.colonless (identifier : Identifier words segment) : ':' ∉ segment := by
  obtain ⟨⟨c, rest, rfl, starts, continues⟩, _, _⟩ := identifier
  intro member
  rcases List.mem_cons.mp member with rfl | member
  · cases starts
  · cases continues ':' member

theorem Identifier.ne_glob (identifier : Identifier words segment) : segment ≠ ['*'] := by
  rintro rfl
  obtain ⟨c, rest, spelled, starts, _⟩ := identifier.spelled
  obtain ⟨rfl, rfl⟩ := List.cons.inj spelled
  cases starts

theorem mem_keywords_iff {word : String} : word ∈ keywords ↔ word ∈ reservedWords ∨ word ∈ overlookedWords := by
  have known : ∀ word ∈ reservedWords, word ∈ keywords := by decide
  simp only [overlookedWords, List.mem_filter, decide_eq_true_eq]
  by_cases reserved : word ∈ reservedWords
  · simp [reserved, known word reserved]
  · simp [reserved]

theorem identifier_keywords_iff : Identifier keywords segment ↔
    Identifier reservedWords segment ∧ String.ofList segment ∉ overlookedWords := by
  constructor
  · rintro ⟨spelled, named, free⟩
    rw [mem_keywords_iff, not_or] at free
    exact ⟨⟨spelled, named, free.1⟩, free.2⟩
  · rintro ⟨⟨spelled, named, free⟩, known⟩
    exact ⟨spelled, named, fun word => (mem_keywords_iff.mp word).elim free known⟩

/-! Paths. -/

theorem Identifier.segments_glob (identifier : Identifier words segment) :
    segments (segment ++ [':', ':', '*']) = [segment, ['*']] := by
  rw [segments_append identifier.colonless]
  rfl

theorem UsePath.isPath_segments (path : UsePath reservedWords cs) :
    isPath (segments cs) = true ∧ segments cs ≠ [['*']] := by
  induction path with
  | name identifier =>
    rw [segments_of_notMem identifier.colonless]
    refine ⟨Bool.or_eq_true_iff.mpr (.inl (isIdentifier_iff.mpr identifier)), ?_⟩
    exact fun same => identifier.ne_glob (List.singleton_inj.mp same)
  | glob identifier =>
    rw [identifier.segments_glob]
    refine ⟨Bool.and_eq_true_iff.mpr ⟨isIdentifier_iff.mpr identifier, rfl⟩, ?_⟩
    exact fun same => nomatch same
  | @inside segment rest identifier _ ih =>
    rw [segments_append identifier.colonless]
    have filled := segments_ne_nil rest
    cases parts : segments rest with
    | nil => exact absurd parts filled
    | cons next others =>
      rw [parts] at ih
      exact ⟨Bool.and_eq_true_iff.mpr ⟨isIdentifier_iff.mpr identifier, ih.1⟩, fun same => nomatch same⟩

/-- Segments that make a path, put together. -/
theorem usePath_of_isPath {parts : List (List Char)} (filled : parts ≠ []) (several : parts ≠ [['*']])
    (valid : isPath parts = true) : UsePath reservedWords ([':', ':'].intercalate parts) := by
  induction parts with
  | nil => exact absurd rfl filled
  | cons segment rest ih =>
    cases rest with
    | nil =>
      rw [List.intercalate_singleton]
      rcases Bool.or_eq_true_iff.mp valid with identifier | star
      · exact .name (isIdentifier_iff.mp identifier)
      · rw [eq_of_beq star] at several
        exact absurd rfl several
    | cons next others =>
      obtain ⟨identifier, valid⟩ := Bool.and_eq_true_iff.mp valid
      have identifier := isIdentifier_iff.mp identifier
      rw [List.intercalate_cons_cons, List.append_assoc]
      by_cases glob : next :: others = [['*']]
      · rw [glob]
        exact .glob identifier
      · exact .inside identifier (ih nofun glob valid)

theorem isUsePath_eq (text : String) :
    isUsePath text = (isPath (segments text.toList) && segments text.toList != [['*']]) := by
  unfold isUsePath
  split
  next only single =>
    rw [single]
    by_cases glob : only = ['*']
    · rw [glob]
      decide
    · have differs : ([only] != [['*']]) = true := bne_iff_ne.mpr fun same => glob (List.singleton_inj.mp same)
      rw [differs, Bool.and_true, isPath, beq_eq_false_iff_ne.mpr glob, Bool.or_false]
  next several =>
    have differs : segments text.toList ≠ [['*']] := fun same => several _ same
    simp [differs]

theorem isUsePath_iff (text : String) : isUsePath text = true ↔ UsePath reservedWords text.toList := by
  rw [isUsePath_eq, Bool.and_eq_true, bne_iff_ne]
  constructor
  · rintro ⟨valid, several⟩
    have path := usePath_of_isPath (segments_ne_nil _) several valid
    rwa [intercalate_segments] at path
  · exact UsePath.isPath_segments

/-- A path is one of the language unless a word in it was overlooked. -/
theorem usePath_keywords_iff : UsePath keywords cs ↔
    UsePath reservedWords cs ∧ ∀ segment ∈ segments cs, String.ofList segment ∉ overlookedWords := by
  constructor
  · intro path
    induction path with
    | name identifier =>
      obtain ⟨reserved, known⟩ := identifier_keywords_iff.mp identifier
      rw [segments_of_notMem identifier.colonless]
      exact ⟨.name reserved, List.forall_mem_singleton.mpr known⟩
    | glob identifier =>
      obtain ⟨reserved, known⟩ := identifier_keywords_iff.mp identifier
      rw [identifier.segments_glob]
      exact ⟨.glob reserved, List.forall_mem_cons.mpr ⟨known, by decide⟩⟩
    | inside identifier _ ih =>
      obtain ⟨reserved, known⟩ := identifier_keywords_iff.mp identifier
      rw [segments_append identifier.colonless]
      exact ⟨.inside reserved ih.1, List.forall_mem_cons.mpr ⟨known, ih.2⟩⟩
  · rintro ⟨path, known⟩
    induction path with
    | name identifier =>
      rw [segments_of_notMem identifier.colonless] at known
      exact .name (identifier_keywords_iff.mpr ⟨identifier, known _ List.mem_cons_self⟩)
    | glob identifier =>
      rw [identifier.segments_glob] at known
      exact .glob (identifier_keywords_iff.mpr ⟨identifier, (List.forall_mem_cons.mp known).1⟩)
    | inside identifier _ ih =>
      rw [segments_append identifier.colonless] at known
      obtain ⟨first, others⟩ := List.forall_mem_cons.mp known
      exact .inside (identifier_keywords_iff.mpr ⟨identifier, first⟩) (ih others)

/-! Imports. -/

/-- Every import of a document that was read from a source becomes a `use` item if it is a path without reserved words,
and a string in the constant otherwise. The item is one of the language unless a word in it was overlooked. -/
theorem render_imports {source label : String} {dialect : Dialect} {document : Document}
    (parsed : parse source label dialect = .ok document) (registry : String) :
    ∃ used others, (used ++ others).Perm document.imports ∧
      render registry document = line 0 header ++ "\n" ++
        useItems ((if hasSeparator registry.toList then [registry] else []) ++ used.map Value.text) ++
        otherImports others ++ line 0 (signature registry document.label) ++
        concat (document.routes.map fun route => statement (routeLines route)) ++ line 0 "\x7d" ∧
      (∀ value ∈ used, UsePath reservedWords value.text.toList ∧ (UsePath keywords value.text.toList ↔
        ∀ segment ∈ segments value.text.toList, String.ofList segment ∉ overlookedWords)) ∧
      ∀ value ∈ others, ¬ UsePath reservedWords value.text.toList ∧ ¬ UsePath keywords value.text.toList := by
  have strings := (parse_eq_ok_iff.mp parsed).2.regular.imports
  refine ⟨document.imports.filter isUse, document.imports.filter (!isUse ·), List.filter_append_perm _ _, rfl, ?_, ?_⟩
  · intro value member
    obtain ⟨_, valid⟩ := Bool.and_eq_true_iff.mp (List.mem_filter.mp member).2
    have path := (isUsePath_iff value.text).mp valid
    exact ⟨path, usePath_keywords_iff.trans (and_iff_right path)⟩
  · intro value member
    obtain ⟨among, foreign⟩ := List.mem_filter.mp member
    have lost : ¬ UsePath reservedWords value.text.toList := by
      rw [← isUsePath_iff]
      intro valid
      simp [isUse, strings value among, valid] at foreign
    exact ⟨lost, fun path => lost (usePath_keywords_iff.mp path).1⟩

/-- A path with a glob, one with a word that was overlooked, and a text that is no path. -/
theorem render_imports_mixed :
    let source := "IMPORT app::* 'a b' app::final"
    ∃ (document : Document) (used others : List Value), parse source "m" .strict = .ok document ∧
      (used ++ others).Perm document.imports ∧ .string "app::*" ∈ used ∧ UsePath keywords "app::*".toList ∧
      .string "app::final" ∈ used ∧ ¬ UsePath keywords "app::final".toList ∧ .string "a b" ∈ others := by
  intro source
  let document : Document := ⟨"m", [.string "app::*", .string "a b", .string "app::final"], []⟩
  have scanned : Scan.ofText source =
      ⟨[⟨.keyword .importWord, 0, 6⟩, ⟨.string "app::*", 7, 13⟩, ⟨.string "a b", 14, 19⟩,
        ⟨.string "app::final", 20, 30⟩], none⟩ := by decide +kernel
  have parsed : parse source "m" .strict = .ok document := by
    simp only [parse, scanned]
    rfl
  obtain ⟨used, others, all, _, items, kept⟩ := render_imports parsed "web::Registry"
  have placed (text : String) (member : Value.string text ∈ document.imports) :
      .string text ∈ used ∧ UsePath reservedWords text.toList ∨
        .string text ∈ others ∧ ¬ UsePath reservedWords text.toList := by
    rcases List.mem_append.mp (all.mem_iff.mpr member) with used | other
    · exact .inl ⟨used, (items _ used).1⟩
    · exact .inr ⟨other, (kept _ other).1⟩
  have starred := (isUsePath_iff "app::*").mp (by decide)
  have last := (isUsePath_iff "app::final").mp (by decide)
  have blank : ¬ UsePath reservedWords "a b".toList := (not_congr (isUsePath_iff "a b")).mp (by decide)
  have globbed := (placed "app::*" (by simp [document])).resolve_right fun other => other.2 starred
  have ended := (placed "app::final" (by simp [document])).resolve_right fun other => other.2 last
  have other := (placed "a b" (by simp [document])).resolve_left fun used => blank used.2
  refine ⟨document, used, others, parsed, all, globbed.1, (items _ globbed.1).2.mpr (by decide), ended.1, ?_, other.1⟩
  exact fun path => absurd ((items _ ended.1).2.mp path) (by decide)

/-- A keyword that is kept for later as the only import. -/
theorem render_imports_abstract : ∃ document, parse "IMPORT abstract" "ns" .permissive = .ok document ∧
    .string "abstract" ∈ document.imports ∧ ¬ UsePath keywords "abstract".toList ∧
    render "cookoo::Registry" document =
      "// This file is auto-generated by codl. Do not edit.\n\nuse cookoo::Registry;\nuse abstract;\n\n" ++
        "pub fn ns_routes(reg: &mut Registry) \x7b\n\x7d\n" := by
  have scanned : Scan.ofText "IMPORT abstract" =
      ⟨[⟨.keyword .importWord, 0, 6⟩, ⟨.string "abstract", 7, 15⟩], none⟩ := by decide +kernel
  have parsed : parse "IMPORT abstract" "ns" .permissive = .ok ⟨"ns", [.string "abstract"], []⟩ := by
    simp only [parse, scanned]
    rfl
  refine ⟨_, parsed, by simp, ?_, by decide +kernel⟩
  exact fun path => absurd (usePath_keywords_iff.mp path).2 (by decide)

end RouteDoc.Registration
