import RouteDoc.Proofs.BuildOutcomes

/-! Runs over many sources. Each source is read in the files as the translations before it left them, and the first
that fails ends the run. What such a run leaves behind is told by what it wrote: at each place stands the text that
was written there last, and everything else is as it was before. -/

namespace RouteDoc

/-! Texts written one after another. -/

/-- What becomes of a tree when texts are written to paths one after another. -/
structure FileTree.Holds (before : FileTree) (writings : List (Path × String)) (after : FileTree) : Prop where
  rooted : after.workingFolder = before.workingFolder
  kept : ∀ location, (∀ writing ∈ writings, before.resolve writing.1 ≠ .ok location) →
    after.lookup location = before.lookup location
  written : ∀ earlier path text later, writings = earlier ++ (path, text) :: later →
    ∃ location, before.resolve path = .ok location ∧ before.lookup location ≠ some .folder ∧
      ((∀ writing ∈ later, before.resolve writing.1 ≠ .ok location) →
        ∃ time, after.lookup location = some (.file text.toUTF8 time))

namespace FileTree.Holds
variable {before middle after : FileTree} {writings : List (Path × String)} {path : Path} {text : String}

theorem nil (tree : FileTree) : tree.Holds [] tree := by
  refine ⟨rfl, fun _ _ => rfl, ?_⟩
  intro earlier path text later split
  simp at split

/-- What is written first stands where it was written, unless something else is written there later. -/
theorem cons (written : before.write path text = .ok middle) (holds : middle.Holds writings after) :
    before.Holds ((path, text) :: writings) after := by
  have first := WrittenAt.write written
  have unmoved {others : List (Path × String)} {location : Location}
      (apart : ∀ writing ∈ others, before.resolve writing.1 ≠ .ok location) :
      ∀ writing ∈ others, middle.resolve writing.1 ≠ .ok location :=
    fun writing member there => apart writing member ((first.resolve_iff writing.1 location).mp there)
  refine ⟨holds.rooted.trans first.rooted, ?_, ?_⟩
  · intro location apart
    obtain ⟨here, others⟩ := List.forall_mem_cons.mp apart
    rw [holds.kept location (unmoved others)]
    exact (first.others location).resolve_right here
  · intro earlier other content later split
    cases earlier with
    | nil =>
      obtain ⟨same, rfl⟩ := List.cons.inj split
      obtain ⟨rfl, rfl⟩ := Prod.mk.inj same
      obtain ⟨location, resolved, free, put⟩ := write_eq_ok written
      refine ⟨location, resolved, free, fun apart => ⟨before.clock, ?_⟩⟩
      have inside : location ≠ [] := by
        rintro rfl
        exact free rfl
      rw [holds.kept location (unmoved apart), put]
      change (before.put location (.file text.toUTF8 before.clock)).lookup location = _
      rw [lookup_put, if_pos ⟨inside, rfl⟩]
    | cons _ earlier =>
      obtain ⟨location, resolved, free, last⟩ := holds.written earlier other content later (List.cons.inj split).2
      refine ⟨location, (first.resolve_iff other location).mp resolved, ?_, fun apart => last (unmoved apart)⟩
      exact fun folder => free ((first.folders location).mpr folder)

end FileTree.Holds

/-! Single translations. -/

namespace Translator
variable {translator : Translator} {tree after last : FileTree} {source : Path} {sources : List Path}
  {writings : List (Path × String)} {error : SourceError}

/-- Why a source is not translated. Rendering does not fail: a document has all that it needs. -/
inductive Fails (translator : Translator) (tree : FileTree) (source : Path) : SourceError → Prop
  | unread {error : FileError} : tree.readText source = .error error →
      Fails translator tree source (.unread source error)
  | refused {text : String} {error : ParseError} : tree.readText source = .ok text →
      parse text source.label translator.dialect = .error error →
      Fails translator tree source (.refused source text error)
  | unwritten {text : String} {error : FileError} : translator.rendering tree source = .ok text →
      tree.write (translator.outputPath source) text = .error error →
      Fails translator tree source (.unwritten (translator.outputPath source) error)

theorem rendering_eq_error (unrendered : translator.rendering tree source = .error error) :
    translator.Fails tree source error := by
  unfold rendering document at unrendered
  split at unrendered
  next failure =>
    obtain rfl := Except.error.inj unrendered
    split at failure
    next unread =>
      obtain rfl := Except.error.inj failure
      exact .unread unread
    next text read =>
      split at failure
      next refused =>
        obtain rfl := Except.error.inj failure
        exact .refused read refused
      next => cases failure
  next => cases unrendered

theorem Fails.translate_eq (fails : translator.Fails tree source error) :
    translator.translate tree source = .error error := by
  unfold translate
  cases fails with
  | unread unread => simp [rendering, document, unread]
  | refused read refused => simp [rendering, document, read, refused]
  | unwritten rendered unwritten => simp [rendered, unwritten]

/-- What is written when sources are translated one after another, as far as none of them fails: the output of each
source, with what the source says at that moment. -/
inductive Writes (translator : Translator) : FileTree → List Path → List (Path × String) → FileTree → Prop
  | nil {tree : FileTree} : Writes translator tree [] [] tree
  | cons {tree after last : FileTree} {source : Path} {text : String} {rest : List Path}
      {writings : List (Path × String)} : translator.rendering tree source = .ok text →
      tree.write (translator.outputPath source) text = .ok after → Writes translator after rest writings last →
      Writes translator tree (source :: rest) ((translator.outputPath source, text) :: writings) last

theorem Writes.holds (writes : translator.Writes tree sources writings last) : tree.Holds writings last := by
  induction writes with
  | nil => exact .nil _
  | cons _ written _ ih => exact .cons written ih

end Translator
end RouteDoc
