import RouteDoc.Keyed
import RouteDoc.Settings.KeyPath
import RouteDoc.Settings.Toml
import RouteDoc.Text.Lowercase

/-!
Settings, and how one layer of settings is put over another. Tables are merged key by key down to
what they hold; anything else replaces what was there before.
-/

namespace RouteDoc

/-- A single value, a list, a table, or nothing where a list was filled up. With all but the last
goes the name of the file they were read from, if they were read from one. -/
inductive Setting
  | absent
  | single (value : Scalar) (source : Option String)
  | list (items : List Setting) (source : Option String)
  | table (fields : List (String × Setting)) (source : Option String)

/-- Settings by key. -/
abbrev SettingTable := List (String × Setting)

namespace SettingTable

/-- The setting of a key. -/
def get? (table : SettingTable) (key : String) : Option Setting :=
  Keyed.get? table key

/-- Replaces the setting of a key, or adds it. -/
def set (table : SettingTable) (key : String) (setting : Setting) : SettingTable :=
  Keyed.set table key setting

theorem get?_set (table : SettingTable) (key wanted : String) (setting : Setting) :
    (table.set key setting).get? wanted =
      if wanted = key then some setting else table.get? wanted :=
  Keyed.get?_set table key wanted setting

end SettingTable

namespace Setting

mutual

/-- A value of a file as a setting. -/
def ofToml (source : Option String) : Toml → Setting
  | .single value => .single value source
  | .list items => .list (ofTomlItems source items) source
  | .table fields => .table (ofTomlFields source fields) source

/-- The items of a list in a file as settings. -/
def ofTomlItems (source : Option String) : List Toml → List Setting
  | [] => []
  | item :: rest => ofToml source item :: ofTomlItems source rest

/-- The fields of a table in a file as settings. -/
def ofTomlFields (source : Option String) : List (String × Toml) → SettingTable
  | [] => []
  | (key, value) :: rest => (key, ofToml source value) :: ofTomlFields source rest

end

/-- The file that a setting was read from as a whole. -/
def source? : Setting → Option String
  | absent => none
  | single _ source | list _ source | table _ source => source

/-- The settings of a table; anything else has none. -/
def fields : Setting → SettingTable
  | table fields _ => fields
  | _ => []

/-- The items of a list; anything else has none. -/
def items : Setting → List Setting
  | list items _ => items
  | _ => []

/-- A table with other settings in it. Anything else gives way to a new table. -/
def withFields (setting : Setting) (fields : SettingTable) : Setting :=
  match setting with
  | table _ source => .table fields source
  | _ => .table fields none

/-- A list with other items in it. Anything else gives way to a new list. -/
def withItems (setting : Setting) (items : List Setting) : Setting :=
  match setting with
  | list _ source => .list items source
  | _ => .list items none

/-- The setting of a key in a table. Keys are kept in lower case. -/
def get? (setting : Setting) (key : String) : Option Setting := setting.fields.get? key

/-- Replaces the setting of a key in a table, or adds it. -/
def set (setting : Setting) (key : String) (replacement : Setting) : Setting :=
  setting.withFields (setting.fields.set (Text.lowercase key) replacement)

mutual

/-- Puts a setting over that of a key in a table. A table is merged with what is there, so that an
empty one changes nothing. -/
def put (target : Setting) (key : String) : Setting → Setting
  | .table fields _ =>
    target.set key (putAll ((target.get? (Text.lowercase key)).getD (.table [] none)) fields)
  | .absent => target.set key .absent
  | .single value source => target.set key (.single value source)
  | .list items source => target.set key (.list items source)

/-- Puts several settings over those of a table. -/
def putAll (target : Setting) : List (String × Setting) → Setting
  | [] => target
  | (key, setting) :: rest => putAll (target.put key setting) rest

end

/-- The place of a position in a list. Before the start of the list there is none. -/
def place? (items : List Setting) (position : Int) : Option Nat :=
  if 0 ≤ position then some position.toNat
  else if -position ≤ items.length then some (items.length - (-position).toNat)
  else none

/-- A list that reaches to a place, filled up with nothing. -/
def filledUp (items : List Setting) (place : Nat) : List Setting :=
  items ++ List.replicate (place + 1 - items.length) .absent

/-- Changes the item at a position of a list. -/
def changeItem (target : Setting) (position : Int) (change : Setting → Setting) : Setting :=
  match place? target.items position with
  | none => target
  | some place => target.withItems ((filledUp target.items place).modify place change)

/-- Puts a setting over what a path leads to. Whatever is in the way gives way to tables and lists.
An item of a list is replaced, also by a table. -/
def putAt (setting : Setting) : KeyPath → Setting → Setting
  | [], target => target
  | [.name key], target => target.put key setting
  | [.item position], target => target.changeItem position fun _ => setting
  | .name key :: rest, target =>
    target.set key (putAt setting rest ((target.get? (Text.lowercase key)).getD .absent))
  | .item position :: rest, target => target.changeItem position (putAt setting rest)

/-- Puts the tables of a file over the settings so far. A key of the file is itself a path if it can
be read as one. -/
def putFile (target : Setting) (source : String) (fields : List (String × Toml)) : Setting :=
  fields.foldl (fun target (key, value) =>
    putAt (ofToml (some source) value) ((KeyPath.ofText? key).getD [.name key]) target) target

end Setting

end RouteDoc
