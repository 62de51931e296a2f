import RouteDoc.Document.Source
import RouteDoc.Proofs.OpenParts
import RouteDoc.Proofs.ScanCoverage

/-! The tokens that a document is written as derive the same document, whatever tokens it was derived
from. What those were matters in one place only: a literal that was read from a source has a spelling,
while a handler that was a string may not have one as a literal. -/

namespace RouteDoc
open Text Spelling

/-- A token that has a spelling: no literal can hold the ends of both its forms. -/
def Token.Printable : Token → Prop
  | .literal text => '\x60' ∉ text.toList ∨ '»' ∉ text.toList
  | .keyword _ | .string _ => True

theorem Written.printable {token : Token} {piece : List Char} (written : Written token piece) :
    token.Printable := by
  obtain ⟨_, spells⟩ | ⟨word, rfl, _⟩ := written
  · cases spells with
    | backticks absent => exact .inl (by simpa using absent)
    | guillemets absent => exact .inr (by simpa using absent)
    | keyword | quotes | bare => trivial
  · trivial

theorem Scan.printable_ofText (source : String) :
    ∀ lexeme ∈ (ofText source).lexemes, lexeme.token.Printable := by
  intro lexeme member
  have covers : Covers source 0 (ofText source) :=
    @Tiles.covers source [] _ _ _ (tiles_ofChars 0 source.toList) rfl rfl
  obtain ⟨piece, _, written⟩ := covers.written lexeme member
  exact written.printable

namespace Grammar
variable {part : List Token → α → Prop} {tokens : List Token} {values : List α}

theorem Many.of_members {write : α → List Token} (each : ∀ value ∈ values, part (write value) value) :
    Many part (values.flatMap write) values := by
  induction values with
  | nil => exact .none
  | cons value values ih =>
    exact .more (each value List.mem_cons_self) (ih fun other member => each other (List.mem_cons_of_mem value member))

/-- A part is derived from the given tokens, each of which has a spelling. -/
def Prints (part : List Token → α → Prop) (written : List Token) (value : α) : Prop :=
  part written value ∧ ∀ token ∈ written, token.Printable

theorem Many.prints {write : α → List Token} (many : Many part tokens values)
    (printable : ∀ token ∈ tokens, token.Printable)
    (each : ∀ piece value, part piece value → (∀ token ∈ piece, token.Printable) → Prints part (write value) value) :
    Prints (Many part) (values.flatMap write) values := by
  have members value (member : value ∈ values) : Prints part (write value) value := by
    obtain ⟨piece, derived, inside⟩ := many.members value member
    exact each piece value derived fun token present => printable token (inside present)
  refine ⟨.of_members fun value member => (members value member).1, fun token present => ?_⟩
  obtain ⟨value, member, written⟩ := List.mem_flatMap.mp present
  exact (members value member).2 token written

variable {dialect : Dialect}

theorem Text.prints {value : Value} (read : Text dialect tokens value) :
    Prints (Text dialect) [value.token] value := by
  cases read with
  | string text => exact ⟨.string text, by simp [Value.token, Token.Printable]⟩
  | word => exact ⟨.string _, by simp [Value.token, Token.Printable]⟩

theorem Text.manyPrint {values : List Value} (read : ∀ value ∈ values, ∃ piece, Text dialect piece value) :
    Prints (Many (Text dialect)) (values.map Value.token) values := by
  have each value (member : value ∈ values) : Prints (Text dialect) [value.token] value := by
    obtain ⟨_, read⟩ := read value member
    exact read.prints
  constructor
  · have many : Many (Text dialect) (values.flatMap fun value => [value.token]) values :=
      .of_members fun value member => (each value member).1
    rwa [← List.map_eq_flatMap] at many
  · intro token present
    obtain ⟨value, member, rfl⟩ := List.mem_map.mp present
    exact (each value member).2 _ List.mem_cons_self

theorem Perhaps.prints {part : List Token → Value → Prop} {value : Option Value} (read : Perhaps part tokens value)
    (each : ∀ value, part tokens value → Prints part [value.token] value) :
    Prints (Perhaps part) (value.toList.map Value.token) value := by
  cases read with
  | absent => exact ⟨.absent, nofun⟩
  | @present _ value read => exact ⟨.present (each value read).1, (each value read).2⟩

theorem Handler.prints {invoke : Invoke} (read : Handler dialect tokens invoke.handler)
    (printable : ∀ token ∈ tokens, token.Printable) :
    Prints (Handler dialect) [invoke.handlerToken] invoke.handler := by
  obtain ⟨handler, name, params⟩ := invoke
  cases read with
  | literal text =>
    have spelled : '\x60' ∉ text.toList ∨ '»' ∉ text.toList := printable (.literal text) List.mem_cons_self
    have kept : Invoke.handlerToken ⟨.literal text, name, params⟩ = .literal text :=
      if_neg (Decidable.not_and_iff_not_or_not.mpr spelled)
    rw [kept]
    exact ⟨.literal text, printable⟩
  | string text permissive =>
    by_cases both : '\x60' ∈ text.toList ∧ '»' ∈ text.toList
    · have quoted : Invoke.handlerToken ⟨.literal text, name, params⟩ = .string text := if_pos both
      rw [quoted]
      exact ⟨.string text permissive, by simp [Token.Printable]⟩
    · have kept : Invoke.handlerToken ⟨.literal text, name, params⟩ = .literal text := if_neg both
      rw [kept]
      refine ⟨.literal text, fun token present => ?_⟩
      obtain rfl := List.mem_singleton.mp present
      exact Decidable.not_and_iff_not_or_not.mp both

theorem Default.prints {value : Value} (read : Default dialect tokens value)
    (printable : ∀ token ∈ tokens, token.Printable) : Prints (Default dialect) [value.token] value := by
  cases read with
  | literal text => exact ⟨.literal text, printable⟩
  | text read => exact ⟨.text read.prints.1, read.prints.2⟩

theorem Sources.prints {values : List Value} (read : Sources dialect tokens values) :
    Prints (Sources dialect)
      (if values = [] then [] else .keyword .fromWord :: values.map Value.token) values := by
  cases read with
  | absent => exact ⟨.absent, nofun⟩
  | present many =>
    split
    next empty => exact ⟨empty ▸ .absent, nofun⟩
    next =>
      have written := Text.manyPrint fun value member =>
        (many.members value member).imp fun _ derived => derived.1
      exact ⟨.present written.1, List.forall_mem_cons.mpr ⟨trivial, written.2⟩⟩

theorem Binding.prints {param : Param} (read : Binding dialect tokens param)
    (printable : ∀ token ∈ tokens, token.Printable) : Prints (Binding dialect) param.tokens param := by
  cases read with
  | @mk named defaulted sourced name default sources first second third =>
    simp only [List.forall_mem_cons, List.forall_mem_append] at printable
    obtain ⟨_, ⟨_, spelled⟩, _⟩ := printable
    have title := first.prints
    have fallback := second.prints fun _ read => read.prints spelled
    have origin := third.prints
    constructor
    · have derived := Binding.mk title.1 fallback.1 origin.1
      simpa [Param.tokens] using derived
    · have written := List.forall_mem_append.mpr ⟨List.forall_mem_append.mpr ⟨title.2, fallback.2⟩, origin.2⟩
      simpa [Param.tokens, Token.Printable] using written

theorem Action.prints {command : Command} (read : Action dialect tokens command)
    (printable : ∀ token ∈ tokens, token.Printable) : Prints (Action dialect) command.tokens command := by
  cases read with
  | includes _ read =>
    exact ⟨.includes .long read.prints.1, List.forall_mem_cons.mpr ⟨trivial, read.prints.2⟩⟩
  | @invoke handled named bound handler name params first second third =>
    simp only [List.forall_mem_cons, List.forall_mem_append] at printable
    obtain ⟨_, ⟨spelled, _⟩, settled⟩ := printable
    have code : Prints (Handler dialect) [Invoke.handlerToken ⟨handler, name, params⟩] handler :=
      @Handler.prints _ _ ⟨handler, name, params⟩ first spelled
    have title := second.prints fun _ read => read.prints
    have bindings := third.prints settled fun _ _ => Binding.prints
    constructor
    · have derived := Action.invoke code.1 title.1 bindings.1
      simpa [Command.tokens, Invoke.tokens] using derived
    · have written := List.forall_mem_append.mpr ⟨List.forall_mem_append.mpr ⟨code.2, title.2⟩, bindings.2⟩
      simpa [Command.tokens, Invoke.tokens, Token.Printable] using written

theorem Head.prints {name description : Option Value} (read : Head dialect tokens name description) :
    Head dialect (name.toList.map Value.token ++ description.toList.map Value.token) name description ∧
      ∀ token ∈ name.toList.map Value.token ++ description.toList.map Value.token, token.Printable := by
  cases read with
  | bare => exact ⟨.bare, nofun⟩
  | named read => exact ⟨.named read.prints.1, read.prints.2⟩
  | described first second =>
    exact ⟨.described first.prints.1 second.prints.1,
      List.forall_mem_append.mpr ⟨first.prints.2, second.prints.2⟩⟩

theorem Group.prints {route : Route} (read : Group dialect tokens route)
    (printable : ∀ token ∈ tokens, token.Printable) : Prints (Group dialect) route.tokens route := by
  cases read with
  | mk head many =>
    simp only [List.forall_mem_cons, List.forall_mem_append] at printable
    have headed := head.prints
    have acted := many.prints printable.2.2 fun _ _ => Action.prints
    exact ⟨.mk headed.1 acted.1,
      List.forall_mem_cons.mpr ⟨trivial, List.forall_mem_append.mpr ⟨headed.2, acted.2⟩⟩⟩

/-- However many runs of imports there were, one run holds them all. -/
theorem Import.prints {imports : List (List Value)} (many : Many (Import dialect) tokens imports) :
    ∃ merged, merged.flatten = imports.flatten ∧
      Prints (Many (Import dialect))
        (if imports.flatten = [] then [] else .keyword .importWord :: imports.flatten.map Value.token) merged := by
  split
  next empty => exact ⟨[], empty.symm, .none, nofun⟩
  next =>
    have written : Prints (Many (Text dialect)) (imports.flatten.map Value.token) imports.flatten := by
      refine Text.manyPrint fun value member => ?_
      obtain ⟨values, run, inside⟩ := List.mem_flatten.mp member
      obtain ⟨_, ⟨texts⟩, _⟩ := many.members values run
      obtain ⟨piece, read, _⟩ := texts.members value inside
      exact ⟨piece, read⟩
    have once : Many (Import dialect) (.keyword .importWord :: imports.flatten.map Value.token) [imports.flatten] := by
      simpa using Many.more (Import.mk written.1) .none
    exact ⟨[imports.flatten], by simp, once, List.forall_mem_cons.mpr ⟨trivial, written.2⟩⟩

theorem Derives.prints {label : String} {document : Document} (read : Derives dialect label tokens document)
    (printable : ∀ token ∈ tokens, token.Printable) :
    Prints (Derives dialect label) document.tokens document := by
  cases read with
  | @mk imported routed imports routes first second =>
    obtain ⟨merged, same, importing⟩ := Import.prints first
    have routing := second.prints (List.forall_mem_append.mp printable).2 fun _ _ => Group.prints
    refine ⟨?_, List.forall_mem_append.mpr ⟨importing.2, routing.2⟩⟩
    have derived : Derives dialect label _ ⟨label, merged.flatten, routes⟩ := .mk importing.1 routing.1
    rw [same] at derived
    exact derived

end Grammar
end RouteDoc
