import RouteDoc.Settings.Error
import RouteDoc.Grammar.Frame
import RouteDoc.Number.Word64
import RouteDoc.Text.Blank

/-!
The settings that the tool works with, read from a table of settings. Values are taken as text or as
numbers wherever they can be; a dialect is taken by its name.
-/

namespace RouteDoc

/-- Everything that can be set. -/
structure Settings where
  dialect : Dialect
  extension : String
  format : String
  registry : String
  period : Nat
  deriving DecidableEq, Repr

/-- The name of a dialect. -/
def Dialect.name : Dialect → String
  | strict => "strict"
  | permissive => "permissive"

/-- The dialect of a name. -/
def Dialect.ofName? (name : String) : Option Dialect :=
  if name = Dialect.strict.name then some .strict
  else if name = Dialect.permissive.name then some .permissive
  else none

namespace Setting

/-- The error that a setting is of the wrong kind. -/
def mismatch (setting : Setting) (expected : Expected) (key : String) : SettingsError :=
  .wrongValue (.ofSetting setting) expected key setting.source?

/-- A setting as text. Numbers and booleans are taken as they are written. -/
def readText (key : String) (setting : Setting) : Except SettingsError String :=
  match setting with
  | single (.text content) _ => .ok content
  | single (.whole number) _ => .ok (toString number)
  | single (.real number) _ => .ok number.text
  | single (.flag true) _ => .ok "true"
  | single (.flag false) _ => .ok "false"
  | _ => .error (setting.mismatch .text key)

/-- The dialect of a name in any case, or the error that there is none. -/
def dialectOf (name : String) : Except SettingsError Dialect :=
  match Dialect.ofName? (Text.lowercase name) with
  | some dialect => .ok dialect
  | none => .error (.unknownDialect name)

/-- A setting as a dialect. A table with a single key counts as that key. -/
def readDialect (_key : String) (setting : Setting) : Except SettingsError Dialect :=
  match setting with
  | single (.text name) _ => dialectOf name
  | table [(name, _)] _ => dialectOf name
  | _ => .error .shapelessDialect

/-- The number that a text stands for: digits, or a word for yes or no in any case. -/
def numberOf? (text : String) : Option Nat :=
  match Text.lowercase text with
  | "true" | "on" | "yes" => some 1
  | "false" | "off" | "no" => some 0
  | _ => word64? text

/-- A setting as a number that is not negative and fits into 64 bits. Fractions are rounded. -/
def readNumber (key : String) (setting : Setting) : Except SettingsError Nat :=
  match setting with
  | single (.whole (.ofNat number)) _ => .ok number
  | single (.real number) _ => .ok (number.toBounded largestWord64)
  | single (.flag true) _ => .ok 1
  | single (.flag false) _ => .ok 0
  | single (.text content) _ =>
    match numberOf? content with
    | some number => .ok number
    | none => .error (setting.mismatch .whole key)
  | _ => .error (setting.mismatch .whole key)

end Setting

/-- The place of one setting in a section: how messages name it, what is there, and what is wrong if
nothing is there. -/
structure Slot where
  key : String
  setting : Option Setting
  absent : SettingsError

/-- The place of a setting in a section. A list holds the settings of a section in their order, so
it is looked up by `index` there, and by `key` in a table. -/
def Section.slot (sort : Section) (key : String) (index : Nat) (setting : Setting) :
    Except SettingsError Slot :=
  match setting with
  | .table fields _ =>
    .ok ⟨sort.key ++ "." ++ key, SettingTable.get? fields key, .missingField key⟩
  | .list items _ =>
    .ok ⟨sort.key ++ "[" ++ toString index ++ "]", items[index]?, .shortSection sort items.length⟩
  | .single _ _ | .absent => .error (.wrongSection sort (.ofSetting setting))

namespace Slot

/-- Reads what is there, if anything is. -/
def readIf {α : Type} (slot : Slot) (read : String → Setting → Except SettingsError α) :
    Except SettingsError (Option α) :=
  match slot.setting with
  | none => .ok none
  | some setting => (read slot.key setting).map some

/-- What was read, or the error that nothing is there. -/
def require {α : Type} (slot : Slot) : Option α → Except SettingsError α
  | none => .error slot.absent
  | some found => .ok found

end Slot

namespace Settings

/-- The place of a setting in a table of all settings. -/
def slotOf (table : Setting) (sort : Section) (key : String) (index : Nat) :
    Except SettingsError Slot :=
  sort.slot key index ((table.get? sort.key).getD (.table [] none))

/-- Reads the single setting of a section. -/
def readSingle {α : Type} (table : Setting) (sort : Section) (key : String)
    (read : String → Setting → Except SettingsError α) : Except SettingsError α := do
  let slot ← slotOf table sort key 0
  slot.require (← slot.readIf read)

/-- Reads the format and the registry. Both are read before one is found to be missing. -/
def readRender (table : Setting) : Except SettingsError (String × String) := do
  let format ← slotOf table .render "format" 0
  let registry ← slotOf table .render "registry_path" 1
  let name ← format.readIf Setting.readText
  let path ← registry.readIf Setting.readText
  return (← format.require name, ← registry.require path)

/-- Reads all settings, section by section. -/
def read (table : Setting) : Except SettingsError Settings := do
  let dialect ← readSingle table .parser "dialect" Setting.readDialect
  let extension ← readSingle table .build "source_extension" Setting.readText
  let (format, registry) ← readRender table
  let period ← readSingle table .watch "period_ms" Setting.readNumber
  return { dialect, extension, format, registry, period }

/-- Whether a character would make an extension lead out of the folder, or match more than one
extension. -/
def isReserved (c : Char) : Bool := c == '/' || c == '\\' || c == '*'

/-- Settings that the tool can work with: the extension is plain, the registry is not blank, and the
period is not zero. -/
def check (settings : Settings) : Except SettingsError Settings :=
  if settings.extension = "" ∨ settings.extension.toList.any isReserved then
    .error (.badExtension settings.extension)
  else if Text.allBlank settings.registry then .error .blankRegistry
  else if settings.period = 0 then .error .zeroPeriod
  else .ok settings

/-- The settings of a table, if the tool can work with them. -/
def ofTable (table : Setting) : Except SettingsError Settings := do
  (← read table).check

end Settings

end RouteDoc
