import Mathlib.Data.List.Nodup
import RouteDoc.Output.Catalog

/-! What a catalog answers after any registrations. Under a name it finds the format that was registered last under
this name, and nothing if there was none; every other question about the name is answered from what is found. -/

namespace RouteDoc
open Format

/-! Formats found by name. -/

/-- Whether some format has a name. -/
def HasName (registered : List Format) (name : String) : Prop := ∃ format ∈ registered, format.name = name

variable {registered formats : List Format} {format : Format} {name : String}

theorem Format.IsLatest.mem (latest : format.IsLatest registered) : format ∈ registered := by
  obtain ⟨earlier, later, rfl, _⟩ := latest
  exact List.mem_append_right _ List.mem_cons_self

namespace Catalog
variable {catalog first second : Catalog}

/-! Registrations. -/

/-- Whether the formats of a catalog have different names. -/
def Distinct (catalog : Catalog) : Prop := (catalog.formats.map Format.name).Nodup

theorem Distinct.register (distinct : catalog.Distinct) (format : Format) : (catalog.register format).Distinct := by
  refine List.nodup_cons.mpr ⟨?_, distinct.sublist (List.filter_sublist.map _)⟩
  intro member
  obtain ⟨other, kept, same⟩ := List.mem_map.mp member
  simpa [same] using (List.mem_filter.mp kept).2

theorem mem_names : name ∈ catalog.names ↔ (catalog.get? name).isSome = true := by
  rw [names, List.mem_mergeSort]
  simp [get?]

/-- Names without repetition are strictly in order once they are sorted. -/
theorem Distinct.sorted (distinct : catalog.Distinct) : catalog.names.Pairwise (· < ·) := by
  have ordered : catalog.names.Pairwise (· ≤ ·) := by
    have sorted : catalog.names.Pairwise fun first second => decide (first ≤ second) = true := by
      refine List.pairwise_mergeSort ?_ ?_ _
      · intro first second third lower upper
        simpa using String.le_trans (by simpa using lower) (by simpa using upper)
      · intro first second
        simpa using String.le_total first second
    exact sorted.imp fun {_ _} ordered => of_decide_eq_true ordered
  have apart : catalog.names.Nodup := (List.mergeSort_perm _ _).nodup_iff.mpr distinct
  refine (ordered.and apart).imp ?_
  rintro first second ⟨lower, different⟩
  exact String.not_le.mp fun upper => different (String.le_antisymm lower upper)

/-- Whether two catalogs answer every question about a name alike. -/
structure AgreeOn (first second : Catalog) (name : String) : Prop where
  get : first.get name = second.get name
  contains : first.contains name = second.contains name
  listed : name ∈ first.names ↔ name ∈ second.names
  render : ∀ document, first.render name document = second.render name document
  write : ∀ {α : Type} document (writer : String → Except String α),
    first.write name document writer = second.write name document writer

/-- What a catalog makes of the formats that were registered in it: it finds the latest of each name. All questions
about a name are answered for the names of these formats and for no others, the names stand in strict order, and a
registration changes no answer about another name. What is written is what is rendered, in one piece or not at all. -/
structure Recalls (catalog : Catalog) (registered : List Format) : Prop where
  latest : ∀ name format, catalog.get name = .ok format ↔ format.name = name ∧ format.IsLatest registered
  found : ∀ name, (∃ format, catalog.get name = .ok format) ↔ HasName registered name
  contains : ∀ name, catalog.contains name = true ↔ HasName registered name
  listed : ∀ name, name ∈ catalog.names ↔ HasName registered name
  sorted : catalog.names.Pairwise (· < ·)
  rendered : ∀ name document, (∃ text, catalog.render name document = .ok text) ↔ HasName registered name
  renders : ∀ (format : Format) document, format.IsLatest registered →
    catalog.render format.name document = .ok (format.render document)
  unknown : ∀ name document, ¬ HasName registered name →
    catalog.render name document = .error (.formatNotFound name) ∧
      ∀ sink : Sink, catalog.write name document sink.take = .error (.formatNotFound name)
  apart : ∀ (format : Format) name, name ≠ format.name → (catalog.register format).AgreeOn catalog name
  taken : ∀ name document text (sink : Sink), catalog.render name document = .ok text → sink.refusal? text = none →
    ∃ later, catalog.write name document sink.take = .ok later ∧ later.taken = sink.taken ++ [text]
  refused : ∀ name document text (sink : Sink) reason, catalog.render name document = .ok text →
    sink.refusal? text = some reason → catalog.write name document sink.take = .error (.refused reason) ∧
      (sink.after (catalog.write name document sink.take)).taken = sink.taken

end Catalog
end RouteDoc
