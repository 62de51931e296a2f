import RouteDoc.Proofs.CodeLines
import RouteDoc.Proofs.Reading
import RouteDoc.Proofs.SourcesKept

/-! No output is a source. Generated code and JSON begin with a word that is no keyword, so they are refused at once,
whatever the document is that they were made from. -/

namespace RouteDoc
open Text Spelling

/-! First words. -/

/-- Whether a word and a blank stand at the front of a text. -/
def Fronts (word text : List Char) : Prop := ∃ c rest, isBlank c = true ∧ text = word ++ c :: rest

theorem Fronts.append {word text : List Char} (fronts : Fronts word text) (more : List Char) :
    Fronts word (text ++ more) := by
  obtain ⟨c, rest, blank, rfl⟩ := fronts
  exact ⟨c, rest ++ more, blank, by simp⟩

/-- A source in which a word that is no keyword stands before everything else has no document. -/
theorem Fronts.refused {source : String} {gap word text : List Char} (fronts : Fronts word text)
    (split : source.toList = gap ++ text) (skipped : Gap gap) (bare : Bare word) (label : String) (dialect : Dialect) :
    ∃ place, parse source label dialect =
      .error (.grammar ⟨.valueAtTop, .top, (Token.string (String.ofList word)).display, place⟩) := by
  obtain ⟨blank, rest, white, rfl⟩ := fronts
  have ends : Ending.blank.admits (blank :: rest) := white
  obtain ⟨c, cs, rfl, reading⟩ := Scan.read_spelled (.bare bare) ends
  have scanned : Scan.ofText source = Scan.ofChars (width gap) (c :: (cs ++ blank :: rest)) := by
    rw [Scan.ofText, split, Scan.ofChars_gap skipped, Nat.zero_add]
    rfl
  refine ⟨(LineMap.ofText source).position (width gap), ?_⟩
  rw [parse, scanned, Scan.ofChars_of_token reading]
  rfl

/-! Code. -/

namespace Registration

theorem gap_header : Gap (line 0 header ++ "\n").toList :=
  Gap.comment (by decide : '\n' ∉ " This file is auto-generated by codl. Do not edit.".toList)
    (.blank (by decide) .nil)

theorem fronts_line {word : List Char} {text : String} (fronts : Fronts word text.toList) :
    Fronts word (line 0 text).toList := by
  rw [toList_line]
  exact fronts.append ['\n']

theorem fronts_useItems (path : String) (paths : List String) :
    Fronts "use".toList (useItems (path :: paths)).toList := by
  have word : Fronts "use".toList "use ".toList := ⟨' ', [], by decide, rfl⟩
  have item : Fronts "use".toList ("use " ++ path ++ ";").toList := by
    rw [String.toList_append, String.toList_append]
    exact (word.append _).append _
  rw [useItems, if_neg (by simp), String.toList_append, toList_concat, List.flatMap_cons]
  exact ((fronts_line item).append _).append _

theorem fronts_otherImports (value : Value) (values : List Value) :
    Fronts "pub".toList (otherImports (value :: values)).toList := by
  have word : Fronts "pub".toList "pub const IMPORTS: &[&str] = &[".toList :=
    ⟨' ', "const IMPORTS: &[&str] = &[".toList, by decide, rfl⟩
  rw [otherImports, if_neg (by simp), String.toList_append]
  refine Fronts.append (fronts_line ?_) _
  rw [String.toList_append, String.toList_append]
  exact (word.append _).append _

theorem fronts_signature (registry label : String) : Fronts "pub".toList (signature registry label).toList := by
  have word : Fronts "pub".toList "pub fn ".toList := ⟨' ', "fn ".toList, by decide, rfl⟩
  simp only [signature, String.toList_append]
  exact ((((word.append _).append _).append _).append _)

/-- Code begins with an item, behind a comment. -/
theorem fronts_render (registry : String) (document : Document) : ∃ word ∈ ["use".toList, "pub".toList], ∃ text,
    (render registry document).toList = (line 0 header ++ "\n").toList ++ text ∧ Fronts word text := by
  have split : (render registry document).toList = (line 0 header ++ "\n").toList ++
      ((useItems (usePaths registry document.imports)).toList ++
        ((otherImports (document.imports.filter (!isUse ·))).toList ++
          ((line 0 (signature registry document.label)).toList ++
            ((concat (document.routes.map fun route => statement (routeLines route))).toList ++
              (line 0 "\x7d").toList)))) := by
    simp only [render, String.toList_append, List.append_assoc]
  have noItems : (useItems []).toList = [] := rfl
  have noConstant : (otherImports []).toList = [] := rfl
  cases paths : usePaths registry document.imports with
  | cons path others =>
    rw [paths] at split
    exact ⟨_, .head _, _, split, (fronts_useItems path others).append _⟩
  | nil =>
    cases values : document.imports.filter (!isUse ·) with
    | cons value others =>
      rw [paths, values, noItems, List.nil_append] at split
      exact ⟨_, .tail _ (.head _), _, split, (fronts_otherImports value others).append _⟩
    | nil =>
      rw [paths, values, noItems, noConstant, List.nil_append, List.nil_append] at split
      exact ⟨_, .tail _ (.head _), _, split, (fronts_line (fronts_signature registry document.label)).append _⟩

end Registration

/-! JSON. -/

theorem Document.fronts_toJsonText (document : Document) : Fronts ['\x7b'] document.toJsonText.toList := by
  have mark : Fronts ['\x7b'] ("\x7b" ++ "\n").toList := ⟨'\n', [], by decide, rfl⟩
  rw [toJsonText, toJson, Json.pretty, Json.enclosed, if_neg (by simp [Json.prettyFields]), String.toList_append]
  simp only [String.toList_append] at mark ⊢
  exact ((((mark.append _).append _).append _).append _).append _

/-! Formats. -/

namespace Translator
variable {translator : Translator} {settings : Settings}

/-- The format of the settings is one of those that are built in. -/
theorem format_of_ofSettings (chosen : ofSettings settings = .ok translator) :
    settings.format = "rust" ∧ translator.format = .rust settings.registry ∨
      settings.format = "json" ∧ translator.format = .json := by
  have code (registry : String) : (Format.rust registry).name = "rust" := rfl
  have json : Format.json.name = "json" := rfl
  unfold ofSettings Catalog.get at chosen
  simp only [Catalog.defaults, Catalog.get?_register, code, json] at chosen
  by_cases isCode : settings.format = "rust"
  · rw [if_pos isCode] at chosen
    obtain rfl := Except.ok.inj chosen
    exact .inl ⟨isCode, rfl⟩
  by_cases isJson : settings.format = "json"
  · rw [if_neg isCode, if_pos isJson] at chosen
    obtain rfl := Except.ok.inj chosen
    exact .inr ⟨isJson, rfl⟩
  · rw [if_neg isCode, if_neg isJson, if_neg isCode] at chosen
    cases chosen

/-- What is written in the format of the settings is refused as a source. -/
theorem refused_of_ofSettings (chosen : ofSettings settings = .ok translator) (document : Document) (label : String)
    (dialect : Dialect) : ∃ error, parse (translator.format.render document) label dialect = .error error := by
  rcases format_of_ofSettings chosen with ⟨_, code⟩ | ⟨_, json⟩
  · rw [code]
    obtain ⟨word, named, text, split, fronts⟩ := Registration.fronts_render settings.registry document
    have bare : Bare word := by
      simp only [List.mem_cons, List.not_mem_nil, or_false] at named
      rcases named with rfl | rfl <;> decide
    obtain ⟨place, refused⟩ := fronts.refused split Registration.gap_header bare label dialect
    exact ⟨_, refused⟩
  · rw [json]
    obtain ⟨place, refused⟩ := document.fronts_toJsonText.refused rfl .nil (by decide) label dialect
    exact ⟨_, refused⟩

end Translator

end RouteDoc
