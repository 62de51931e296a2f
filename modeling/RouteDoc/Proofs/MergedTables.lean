import RouteDoc.Settings.Leaf

/-! Tables put over tables, key by key. Whatever is put at a key of a table, the others are kept; so a file changes a
leaf only where one of its entries leads to it, and the last of these has the last word. -/

namespace RouteDoc

/-! Single steps. -/

namespace Setting
variable {target : Setting}

/-- Whether a setting is a table. -/
def IsTable (setting : Setting) : Prop := ∃ fields source, setting = .table fields source

theorem fields_withFields (setting : Setting) (fields : SettingTable) :
    (setting.withFields fields).fields = fields := by
  cases setting with
  | table => rfl
  | absent => rfl
  | single => rfl
  | list => rfl

theorem get?_set (target : Setting) (key wanted : String) (replacement : Setting) :
    (target.set key replacement).get? wanted =
      if wanted = Text.lowercase key then some replacement else target.get? wanted := by
  rw [get?, set, fields_withFields, SettingTable.get?_set]
  rfl

theorem isTable_set (target : Setting) (key : String) (replacement : Setting) :
    (target.set key replacement).IsTable := by
  cases target with
  | table fields source => exact ⟨_, source, rfl⟩
  | absent => exact ⟨_, none, rfl⟩
  | single => exact ⟨_, none, rfl⟩
  | list => exact ⟨_, none, rfl⟩

theorem set_injective {first second : Setting} {key : String} (same : target.set key first = target.set key second) :
    first = second := by
  have found := congrArg (get? · (Text.lowercase key)) same
  simpa [get?_set] using found

/-- What is put at a key changes nothing but this key. -/
theorem put_eq_set (target : Setting) (key : String) (setting : Setting) :
    ∃ replacement, target.put key setting = target.set key replacement := by
  cases setting with
  | table fields => exact ⟨_, by rw [put]⟩
  | absent => exact ⟨_, by rw [put]⟩
  | single => exact ⟨_, by rw [put]⟩
  | list => exact ⟨_, by rw [put]⟩

theorem put_single (target : Setting) (key : String) (value : Scalar) (source : Option String) :
    target.put key (.single value source) = target.set key (.single value source) := by
  rw [put]

/-- What is put behind a key changes nothing but this key. -/
theorem putAt_eq_set (setting : Setting) (name : String) (path : KeyPath) (target : Setting) :
    ∃ replacement, putAt setting (.name name :: path) target = target.set name replacement := by
  cases path with
  | nil =>
    rw [putAt]
    exact put_eq_set target name setting
  | cons step rest => exact ⟨_, by rw [putAt]; exact nofun⟩

theorem putAt_inside (setting : Setting) (name : String) {path : KeyPath} (inside : path ≠ []) (target : Setting) :
    putAt setting (.name name :: path) target =
      target.set name (putAt setting path ((target.get? (Text.lowercase name)).getD .absent)) := by
  cases path with
  | nil => exact absurd rfl inside
  | cons step rest =>
    rw [putAt]
    exact nofun

/-- Tables stay tables when something is put over them. -/
theorem IsTable.putAll (isTable : target.IsTable) (fields : SettingTable) : (target.putAll fields).IsTable := by
  induction fields generalizing target with
  | nil =>
    rw [Setting.putAll]
    exact isTable
  | cons field rest ih =>
    obtain ⟨key, setting⟩ := field
    rw [Setting.putAll]
    obtain ⟨replacement, changed⟩ := put_eq_set target key setting
    rw [changed]
    exact ih (isTable_set target key replacement)

end Setting

namespace Leaf
open Setting
variable {leaf : Leaf} {source : String} {fields : List (String × Toml)}

theorem lowercase_key (leaf : Leaf) : Text.lowercase leaf.key = leaf.key := by
  cases leaf <;> decide +kernel

theorem lowercase_sort (leaf : Leaf) : Text.lowercase leaf.sort.key = leaf.sort.key := by
  cases leaf <;> decide +kernel

/-- A change at a key changes the leaf that has the key. -/
theorem get?_set_key (leaf : Leaf) (target : Setting) (key : String) (replacement : Setting) :
    (target.set key replacement).get? leaf.key =
      if leaf.hasKey key then some replacement else target.get? leaf.key := by
  simp only [get?_set, hasKey, beq_iff_eq, eq_comm (a := leaf.key)]

theorem get?_set_sort (leaf : Leaf) (target : Setting) (name : String) (replacement : Setting) :
    (target.set name replacement).get? leaf.sort.key =
      if leaf.hasSort name then some replacement else target.get? leaf.sort.key := by
  simp only [get?_set, hasSort, beq_iff_eq, eq_comm (a := leaf.sort.key)]

theorem inTable?_cons (leaf : Leaf) (key : String) (value : Toml) (rest : List (String × Toml)) :
    leaf.inTable? ((key, value) :: rest) = (leaf.inTable? rest).or (leaf.inTable? [(key, value)]) := by
  unfold inTable?
  rw [List.reverse_cons, List.findSome?_append]
  rfl

/-! Sections. -/

/-- One field of a section after another is put over those that are there. -/
theorem get?_putAll (respected : ∀ field ∈ fields, leaf.hasKey field.1 → ∃ single, field.2 = .single single)
    (target : Setting) : (target.putAll (ofTomlFields (some source) fields)).get? leaf.key =
      ((leaf.inTable? fields).map (.single · (some source))).or (target.get? leaf.key) := by
  induction fields generalizing target with
  | nil =>
    rw [ofTomlFields, putAll]
    rfl
  | cons field rest ih =>
    obtain ⟨key, value⟩ := field
    obtain ⟨first, others⟩ := List.forall_mem_cons.mp respected
    rw [ofTomlFields, putAll, ih others, inTable?_cons, Option.map_or, Option.or_assoc]
    congr 1
    by_cases same : leaf.hasKey key = true
    · obtain ⟨single, rfl⟩ := first same
      rw [ofToml, put_single, get?_set_key, if_pos same]
      simp [inTable?, same]
    · obtain ⟨replacement, changed⟩ := put_eq_set target key (ofToml (some source) value)
      rw [changed, get?_set_key, if_neg same]
      cases value with
      | single => simp [inTable?, same]
      | list => rfl
      | table => rfl

theorem atPath?_of_not_hasKey {sort key : String} (apart : ¬ leaf.hasKey key) (rest : KeyPath) (value : Toml) :
    leaf.atPath? (.name sort :: .name key :: rest) value = none := by
  cases rest with
  | nil => cases value <;> simp [atPath?, apart]
  | cons => rfl

theorem atPath?_of_not_hasSort {name : String} (apart : ¬ leaf.hasSort name) (rest : KeyPath) (value : Toml) :
    leaf.atPath? (.name name :: rest) value = none := by
  match rest with
  | [] => cases value <;> simp [atPath?, apart]
  | [.name _] => cases value <;> simp [atPath?, apart]
  | .item _ :: _ => rfl
  | .name _ :: _ :: _ => rfl

/-! Whole tables. -/

/-- What stands at a leaf. -/
def in? (leaf : Leaf) (table : Setting) : Option Setting :=
  (table.get? leaf.sort.key).bind (·.get? leaf.key)

end Leaf

/-- Whether every section is there, as a table. -/
def Setting.Sectioned (table : Setting) : Prop :=
  ∀ leaf : Leaf, ∃ part, table.get? leaf.sort.key = some part ∧ part.IsTable

/-- A change of a table under one of its keys. -/
theorem Leaf.in?_set (leaf : Leaf) (target : Setting) (name : String) (replacement : Setting) :
    leaf.in? (target.set name replacement) =
      if leaf.hasSort name then replacement.get? leaf.key else leaf.in? target := by
  rw [Leaf.in?, Leaf.get?_set_sort, Leaf.in?]
  split
  · rfl
  · rfl

theorem Setting.Sectioned.set {target : Setting} (sectioned : target.Sectioned) (name : String) {replacement : Setting}
    (isTable : ∀ leaf : Leaf, leaf.hasSort name → replacement.IsTable) : (target.set name replacement).Sectioned := by
  intro leaf
  by_cases same : leaf.hasSort name = true
  · exact ⟨replacement, by rw [Leaf.get?_set_sort, if_pos same], isTable leaf same⟩
  · obtain ⟨part, found, holds⟩ := sectioned leaf
    exact ⟨part, by rw [Leaf.get?_set_sort, if_neg same, found], holds⟩

/-! Files. -/

namespace Setting
variable {target : Setting} {name source : String} {rest : KeyPath} {value : Toml}

/-- Where an entry leads into a section, there is a table again, and it has at a leaf what the entry says of it, or
what was there before. -/
theorem Sectioned.replaced (sectioned : target.Sectioned) {leaf : Leaf} (entered : leaf.hasSort name)
    (respects : leaf.Respects (.name name :: rest) value) {replacement : Setting}
    (changed : putAt (ofToml (some source) value) (.name name :: rest) target = target.set name replacement) :
    replacement.IsTable ∧ replacement.get? leaf.key =
      ((leaf.atPath? (.name name :: rest) value).map (.single · (some source))).or (leaf.in? target) := by
  obtain ⟨part, found, isTable⟩ := sectioned leaf
  have reached : target.get? (Text.lowercase name) = some part := by rw [eq_of_beq entered, found]
  have before : leaf.in? target = part.get? leaf.key := by rw [Leaf.in?, found, Option.bind_some]
  rw [before]
  match rest with
  | [] =>
    obtain ⟨fields, rfl, respected⟩ := respects entered
    rw [putAt, ofToml, put, reached] at changed
    obtain rfl := set_injective changed
    refine ⟨isTable.putAll _, ?_⟩
    rw [Option.getD_some, Leaf.get?_putAll respected, Leaf.atPath?, if_pos entered]
  | .name key :: path =>
    rw [putAt_inside _ _ (List.cons_ne_nil _ _), reached] at changed
    obtain rfl := set_injective changed
    rw [Option.getD_some]
    by_cases same : leaf.hasKey key = true
    · obtain ⟨rfl, single, rfl⟩ := respects entered same
      rw [putAt, ofToml, put_single]
      refine ⟨isTable_set _ _ _, ?_⟩
      rw [Leaf.get?_set_key, if_pos same]
      simp [Leaf.atPath?, entered, same]
    · obtain ⟨inner, changed⟩ := putAt_eq_set (ofToml (some source) value) key path part
      rw [changed]
      refine ⟨isTable_set _ _ _, ?_⟩
      rw [Leaf.get?_set_key, if_neg same, Leaf.atPath?_of_not_hasKey same]
      rfl
  | .item position :: path =>
    rw [Leaf.Respects] at respects
    rw [respects] at entered
    cases entered

/-- An entry of a file is put over a table. -/
theorem Sectioned.putAt (sectioned : target.Sectioned) (source : String)
    (respects : ∀ leaf : Leaf, leaf.Respects (.name name :: rest) value) :
    (Setting.putAt (ofToml (some source) value) (.name name :: rest) target).Sectioned ∧ ∀ leaf : Leaf,
      leaf.in? (Setting.putAt (ofToml (some source) value) (.name name :: rest) target) =
        ((leaf.atPath? (.name name :: rest) value).map (.single · (some source))).or (leaf.in? target) := by
  obtain ⟨replacement, changed⟩ := putAt_eq_set (ofToml (some source) value) name rest target
  rw [changed]
  constructor
  · exact sectioned.set name fun leaf entered => (sectioned.replaced entered (respects leaf) changed).1
  · intro leaf
    rw [Leaf.in?_set]
    split
    next entered => exact (sectioned.replaced entered (respects leaf) changed).2
    next apart =>
      rw [Leaf.atPath?_of_not_hasSort apart]
      rfl

/-- The key of an entry starts with a name, whether it is a path or not. -/
theorem exists_name (key : String) : ∃ name rest, (KeyPath.ofText? key).getD [.name key] = .name name :: rest := by
  rw [KeyPath.ofText?, KeyPath.readSteps]
  split
  · exact ⟨key, [], rfl⟩
  next =>
    cases KeyPath.readSteps key.toList.length (key.toList.dropWhile KeyPath.isNameChar) with
    | none => exact ⟨key, [], rfl⟩
    | some steps => exact ⟨_, steps, rfl⟩

/-- A file is put over a table, one entry after another. -/
theorem Sectioned.putFile (sectioned : target.Sectioned) {layer : Layer} (plain : layer.Plain) :
    (target.putFile layer.source layer.fields).Sectioned ∧ ∀ leaf : Leaf,
      leaf.in? (target.putFile layer.source layer.fields) = (leaf.inLayer? layer).or (leaf.in? target) := by
  obtain ⟨source, fields⟩ := layer
  induction fields generalizing target with
  | nil => exact ⟨sectioned, fun leaf => rfl⟩
  | cons entry rest ih =>
    obtain ⟨key, value⟩ := entry
    obtain ⟨name, path, steps⟩ := exists_name key
    have respects (leaf : Leaf) : leaf.Respects (.name name :: path) value := by
      have first := plain leaf (key, value) List.mem_cons_self
      rwa [steps] at first
    obtain ⟨first, said⟩ := sectioned.putAt source respects
    obtain ⟨last, later⟩ := ih first fun leaf entry member => plain leaf entry (List.mem_cons_of_mem _ member)
    have same : target.putFile source ((key, value) :: rest) =
        (Setting.putAt (ofToml (some source) value) (.name name :: path) target).putFile source rest := by
      rw [← steps]
      rfl
    refine ⟨same ▸ last, fun leaf => ?_⟩
    dsimp only at later ⊢
    rw [same, later, said, ← Option.or_assoc]
    congr 1
    rw [Leaf.inLayer?, Leaf.inLayer?, ← Option.map_or]
    congr 1
    rw [List.reverse_cons, List.findSome?_append, List.findSome?_singleton]
    dsimp only
    rw [steps]

end Setting

end RouteDoc
