import RouteDoc.Document
import RouteDoc.Grammar.Fault

/-!
The grammar of route documents, as relations between tokens and the parts that are derived from
them. A document is a run of imports and then a run of routes; the places of the tokens play no
part.
-/

namespace RouteDoc.Grammar

/-- Any number of parts one after another. -/
inductive Many {α : Type} (part : List Token → α → Prop) : List Token → List α → Prop
  | none : Many part [] []
  | more {first rest : List Token} {value : α} {values : List α} :
      part first value → Many part rest values → Many part (first ++ rest) (value :: values)

/-- A part that may be absent. -/
inductive Perhaps {α : Type} (part : List Token → α → Prop) : List Token → Option α → Prop
  | absent : Perhaps part [] none
  | present {tokens : List Token} {value : α} :
      part tokens value → Perhaps part tokens (some value)

variable (dialect : Dialect)

/-- A string. The strict dialect reads the word `INCLUDE` as one. -/
inductive Text : List Token → Value → Prop
  | string (text : String) : Text [.string text] (.string text)
  | word : dialect = .strict → Text [.keyword .includeWord] (.string Keyword.includeWord.text)

/-- A handler: literal code, or in the permissive dialect a string that counts as code. -/
inductive Handler : List Token → Value → Prop
  | literal (text : String) : Handler [.literal text] (.literal text)
  | string (text : String) : dialect = .permissive → Handler [.string text] (.literal text)

/-- The default of a binding: a string or literal code. -/
inductive Default : List Token → Value → Prop
  | literal (text : String) : Default [.literal text] (.literal text)
  | text {tokens : List Token} {value : Value} : Text dialect tokens value → Default tokens value

/-- The sources of a binding: `FROM` with any number of strings, or nothing. -/
inductive Sources : List Token → List Value → Prop
  | absent : Sources [] []
  | present {tokens : List Token} {values : List Value} :
      Many (Text dialect) tokens values → Sources (.keyword .fromWord :: tokens) values

/-- A binding: `USING` with a name, a default and sources. -/
inductive Binding : List Token → Param → Prop
  | mk {named defaulted sourced : List Token} {name : Value} {default : Option Value}
      {sources : List Value} :
      Text dialect named name → Perhaps (Default dialect) defaulted default →
      Sources dialect sourced sources →
      Binding (.keyword .usingWord :: (named ++ defaulted ++ sourced)) ⟨name, default, sources⟩

/-- The keyword of an include. Only the permissive dialect knows its short spelling. -/
inductive IncludeWord : Token → Prop
  | long : IncludeWord (.keyword .includesWord)
  | short : dialect = .permissive → IncludeWord (.keyword .includeWord)

/-- A command: an include with a name, or `DOES` with a handler, a name and bindings. -/
inductive Action : List Token → Command → Prop
  | includes {word : Token} {named : List Token} {name : Value} :
      IncludeWord dialect word → Text dialect named name → Action (word :: named) (.includes name)
  | invoke {handled named bound : List Token} {handler : Value} {name : Option Value}
      {params : List Param} :
      Handler dialect handled handler → Perhaps (Text dialect) named name →
      Many (Binding dialect) bound params →
      Action (.keyword .doesWord :: (handled ++ named ++ bound)) (.invoke ⟨handler, name, params⟩)

/-- The head of a route: a name and a description, a name alone, or neither. -/
inductive Head : List Token → Option Value → Option Value → Prop
  | bare : Head [] none none
  | named {tokens : List Token} {name : Value} : Text dialect tokens name → Head tokens name none
  | described {first second : List Token} {name description : Value} :
      Text dialect first name → Text dialect second description →
      Head (first ++ second) name description

/-- A route: `ROUTE` with its head and commands. -/
inductive Group : List Token → Route → Prop
  | mk {head body : List Token} {name description : Option Value} {commands : List Command} :
      Head dialect head name description → Many (Action dialect) body commands →
      Group (.keyword .routeWord :: (head ++ body)) ⟨name, description, commands⟩

/-- A run of imports: `IMPORT` with any number of strings. -/
inductive Import : List Token → List Value → Prop
  | mk {tokens : List Token} {values : List Value} :
      Many (Text dialect) tokens values → Import (.keyword .importWord :: tokens) values

/-- A document is derived from tokens that are imports followed by routes. -/
inductive Derives (label : String) : List Token → Document → Prop
  | mk {imported routed : List Token} {imports : List (List Value)} {routes : List Route} :
      Many (Import dialect) imported imports → Many (Group dialect) routed routes →
      Derives label (imported ++ routed) ⟨label, imports.flatten, routes⟩

end RouteDoc.Grammar
