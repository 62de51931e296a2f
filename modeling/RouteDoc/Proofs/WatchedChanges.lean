import Mathlib.Logic.Relation
import RouteDoc.Proofs.FolderSearch
import RouteDoc.Proofs.PathParts
import RouteDoc.Watch.Interleaving

/-! Watching loses no change. A time is remembered when a file is looked at, before the file is read. As long as the
file still has that time nothing was written since, so what was read later is what the file holds; and once it has
another time, the old one never comes back. -/

namespace RouteDoc

/-! Times of files. -/

namespace FileTree
variable {tree earlier : FileTree} {path other : Path} {time : Time}

theorem modified_of_entry {content : ByteArray} (there : tree.entry path = .ok (.file content time)) :
    tree.modified path = .ok time := by
  rw [modified, there]

theorem readBytes_of_entry {content : ByteArray} (there : tree.entry path = .ok (.file content time)) :
    tree.readBytes path = .ok content := by
  rw [readBytes, there]

theorem isFile_of_entry {content : ByteArray} (there : tree.entry path = .ok (.file content time)) :
    tree.isFile path = true := by
  rw [isFile, there]

theorem modified_of_parts (led : earlier.isFile path = true) (same : path.parts = other.parts)
    (found : tree.modified other = .ok time) : tree.modified path = .ok time := by
  cases there : tree.entry other with
  | error => simp [modified, there] at found
  | ok entry =>
    rw [modified, there] at found
    rw [modified, entry_of_parts led same there]
    exact found

namespace Renewed
variable {past : List FileTree}

theorem refl (past : List FileTree) (tree : FileTree) : Renewed past tree tree :=
  fun _ _ _ there => .inl there

theorem remove (past : List FileTree) (tree : FileTree) (location : Location) :
    Renewed past tree (tree.remove location) := by
  have kept (other : Location) (entry : Entry) (found : (tree.remove location).lookup other = some entry) :
      tree.lookup other = some entry := by
    rw [lookup_remove] at found
    split at found
    · cases found
    · exact found
  intro path content time there
  obtain ⟨target, resolved, found⟩ := entry_eq_ok.mp there
  obtain ⟨unended, filled, short, followed⟩ := resolve_eq_ok.mp resolved
  have before := resolve_eq_ok.mpr ⟨unended, filled, short, follow_kept (fun _ => kept _ _) followed⟩
  exact .inl (entry_eq_ok.mpr ⟨target, before, kept _ _ found⟩)

/-- A file that is put where no folder ever was, with a time that no file there had. -/
theorem put {location : Location} {content : ByteArray} {time : Time}
    (fresh : ∀ earlier ∈ tree :: past, earlier.workingFolder = tree.workingFolder ∧
      earlier.lookup location ≠ some .folder ∧ ∀ content, earlier.lookup location ≠ some (.file content time)) :
    Renewed past tree (tree.put location (.file content time)) := by
  have kept (other : Location) (entry : Entry)
      (found : (tree.put location (.file content time)).lookup other = some entry) :
      other = location ∧ entry = .file content time ∨ tree.lookup other = some entry := by
    rw [lookup_put] at found
    split at found
    next there => exact .inl ⟨there.2, (Option.some.inj found).symm⟩
    next => exact .inr found
  intro path other now there
  obtain ⟨target, resolved, found⟩ := entry_eq_ok.mp there
  obtain ⟨unended, filled, short, followed⟩ := resolve_eq_ok.mp resolved
  have before := resolve_eq_ok.mpr ⟨unended, filled, short,
    follow_kept (fun _ found => (kept _ _ found).resolve_left (by simp)) followed⟩
  rcases kept _ _ found with ⟨rfl, same⟩ | found
  · obtain ⟨_, rfl⟩ := Entry.file.inj same
    right
    intro earlier member was
    obtain ⟨rooted, unfolded, unwritten⟩ := fresh earlier member
    cases held : earlier.entry path with
    | error => simp [modified, held] at was
    | ok entry =>
      obtain ⟨place, reached, standing⟩ := entry_eq_ok.mp held
      obtain rfl := resolve_unique rooted before reached
      cases entry with
      | folder => exact unfolded standing
      | file content written =>
        obtain rfl : written = now := by simpa [modified, held] using was
        exact unwritten content standing
  · exact .inl (entry_eq_ok.mpr ⟨target, before, found⟩)

end Renewed
end FileTree

theorem WatchMemory.look_singleton (memory : WatchMemory) (time : Path → Except FileError Time) (path : Path) :
    memory.look time [path] =
      match time path with
      | .error _ => (memory, [])
      | .ok now => (memory.record path now, if memory.time? path = some now then [] else [path]) := by
  unfold look look
  cases time path with
  | error => rfl
  | ok now => rfl

theorem WatchMemory.look_cons (memory : WatchMemory) (time : Path → Except FileError Time) (path : Path)
    (rest : List Path) :
    memory.look time (path :: rest) =
      (((memory.look time [path]).1.look time rest).1,
        (memory.look time [path]).2 ++ ((memory.look time [path]).1.look time rest).2) := by
  rw [look_singleton, look]
  cases time path with
  | error => rfl
  | ok now =>
    dsimp only
    split <;> rfl

theorem discover_isFile {tree : FileTree} {folder : Path} {extension : String} {found : List Path}
    (searched : discover tree folder extension = .ok found) : ∀ path ∈ found, tree.isFile path = true := by
  intro path member
  simp only [discover] at searched
  split at searched
  · cases searched
  · obtain rfl := Except.ok.inj searched
    rw [List.mem_mergeSort] at member
    exact (List.mem_filter.mp member).2

namespace Watcher
open FileTree

namespace State

/-- The paths that are left in a pass. -/
def listed (state : State) : List Path :=
  match state.phase with
  | .looking rest _ => rest ++ state.waiting
  | _ => state.waiting

/-- What holds between the steps of a watcher. A remembered time was once that of the file, and a file that still
has it holds what was read last, unless it is yet to be read in the same pass. -/
structure Current (past : List FileTree) (state : State) : Prop where
  led : ∀ path ∈ state.listed, ∃ earlier : FileTree, earlier.isFile path = true
  seen : ∀ earlier path time, isFile earlier path = true → state.memory.time? path = some time →
    ∃ tree ∈ state.tree :: past, tree.modified path = .ok time
  read : ∀ path content time, state.tree.entry path = .ok (.file content time) →
    state.memory.time? path = some time → state.Awaits path ∨ state.lastRead? path = some (.ok content)

namespace Current
variable {past : List FileTree} {memory : WatchMemory} {tree after : FileTree} {phase : Phase} {path : Path}
  {rest kept : List Path} {reads : List (List String × Except FileError ByteArray)}

theorem start (tree : FileTree) : Current [] { tree } := by
  refine ⟨nofun, ?_, ?_⟩
  · intro earlier path time _ remembered
    cases remembered
  · intro path content time _ remembered
    cases remembered

/-- A change of the files: a file with a remembered time is not one that was just written. -/
theorem renewed {state : State} (current : state.Current past) (renewed : Renewed past state.tree after) :
    Current (state.tree :: past) { state with tree := after } := by
  refine ⟨current.led, ?_, ?_⟩
  · intro earlier path time led remembered
    obtain ⟨tree, member, found⟩ := current.seen earlier path time led remembered
    exact ⟨tree, List.mem_cons_of_mem _ member, found⟩
  · intro path content time there remembered
    rcases renewed path content time there with before | fresh
    · exact current.read path content time before remembered
    · obtain ⟨tree, member, found⟩ := current.seen _ path time (isFile_of_entry there) remembered
      exact absurd found (fresh tree member)

/-- Looking at a path. A time that is new is remembered, and then the path is kept. -/
theorem look (current : Current past ⟨memory, tree, .looking (path :: rest) kept, reads⟩) :
    Current past ⟨(memory.look tree.modified [path]).1, tree,
      .looking rest (kept ++ (memory.look tree.modified [path]).2), reads⟩ := by
  obtain ⟨led, seen, read⟩ := current
  rw [WatchMemory.look_singleton]
  cases stat : tree.modified path with
  | error =>
    rw [List.append_nil]
    exact ⟨fun other member => led other (List.mem_cons_of_mem _ member), seen, read⟩
  | ok now =>
    dsimp only
    refine ⟨?_, ?_, ?_⟩
    · intro other member
      apply led other
      rcases List.mem_append.mp member with left | taken
      · exact List.mem_cons_of_mem _ (List.mem_append_left _ left)
      rcases List.mem_append.mp taken with taken | new
      · exact List.mem_cons_of_mem _ (List.mem_append_right _ taken)
      split at new
      · cases new
      · obtain rfl := List.mem_singleton.mp new
        exact List.mem_cons_self
    · intro earlier other time was remembered
      rw [WatchMemory.time?_record] at remembered
      split at remembered
      next same =>
        obtain rfl := Option.some.inj remembered
        exact ⟨tree, List.mem_cons_self, modified_of_parts was same stat⟩
      next => exact seen earlier other time was remembered
    · intro other content time there remembered
      have earlier (known : memory.time? other = some time) :
          (∃ source ∈ kept, source.parts = other.parts) ∨ Keyed.get? reads other.parts = some (.ok content) :=
        read other content time there known
      rw [WatchMemory.time?_record] at remembered
      split at remembered
      next same =>
        obtain rfl := Option.some.inj remembered
        by_cases known : memory.time? path = some now
        · rw [if_pos known, List.append_nil]
          apply earlier
          rwa [WatchMemory.time?, same]
        · rw [if_neg known]
          exact .inl ⟨path, List.mem_append_right _ (List.mem_singleton_self path), same.symm⟩
      next =>
        rcases earlier remembered with ⟨source, member, same⟩ | done
        · exact .inl ⟨source, List.mem_append_left _ member, same⟩
        · exact .inr done

/-- Reading a source. The path by which it was found leads to the file, under whatever other path it is known. -/
theorem reading (current : Current past ⟨memory, tree, .translating (path :: rest), reads⟩)
    (listed : State.listed ⟨memory, tree, phase, reads⟩ = rest)
    (waiting : State.waiting ⟨memory, tree, phase, reads⟩ = rest) :
    Current past ⟨memory, tree, phase, Keyed.set reads path.parts (tree.readBytes path)⟩ := by
  obtain ⟨led, seen, read⟩ := current
  refine ⟨?_, seen, ?_⟩
  · intro other member
    change other ∈ State.listed ⟨memory, tree, phase, reads⟩ at member
    rw [listed] at member
    exact led other (List.mem_cons_of_mem _ member)
  · intro other content time there remembered
    simp only [Awaits, lastRead?, Keyed.get?_set]
    change (∃ source ∈ State.waiting ⟨memory, tree, phase, reads⟩, source.parts = other.parts) ∨ _
    rw [waiting]
    by_cases same : other.parts = path.parts
    · obtain ⟨earlier, was⟩ := led path List.mem_cons_self
      rw [if_pos same, readBytes_of_entry (entry_of_parts was same.symm there)]
      exact .inr rfl
    · rw [if_neg same]
      rcases read other content time there remembered with ⟨source, member, known⟩ | done
      · rcases List.mem_cons.mp member with rfl | member
        · exact absurd known.symm same
        · exact .inl ⟨source, member, known⟩
      · exact .inr done

/-- Every step of the watcher keeps what holds between its steps. Only the writing of an output changes the files. -/
theorem advance {watcher : Watcher} {state : State} (current : state.Current past)
    (fresh : Renewed past state.tree (watcher.advance state).tree) :
    (watcher.advance state).Current (state.tree :: past) := by
  have still {next : State} (now : next.Current past) (same : next.tree = state.tree) :
      next.Current (state.tree :: past) := by
    rw [← same]
    exact now.renewed (.refl past next.tree)
  obtain ⟨memory, tree, phase, reads⟩ := state
  cases phase with
  | resting =>
    unfold Watcher.advance
    dsimp only
    split
    · exact still current rfl
    next found searched =>
      refine still ⟨?_, current.seen, current.read⟩ rfl
      intro path member
      exact ⟨tree, discover_isFile searched path (by simpa [listed, waiting] using member)⟩
  | looking rest kept =>
    cases rest with
    | nil => exact still ⟨current.led, current.seen, current.read⟩ rfl
    | cons path rest => exact still current.look rfl
  | translating rest =>
    cases rest with
    | nil => exact still ⟨nofun, current.seen, current.read⟩ rfl
    | cons source rest =>
      unfold Watcher.advance
      dsimp only
      split
      · exact still (current.reading rfl rfl) rfl
      · exact still (current.reading rfl rfl) rfl
  | writing source text rest =>
    have done : Current past ⟨memory, tree, .translating rest, reads⟩ := ⟨current.led, current.seen, current.read⟩
    unfold Watcher.advance at fresh ⊢
    dsimp only at fresh ⊢
    split
    · exact still done rfl
    next after written =>
      rw [written] at fresh
      exact done.renewed fresh

/-- A source that is awaited is so until it is read. -/
theorem awaited {watcher : Watcher} {state : State} (current : state.Current past) {content : ByteArray} {time : Time}
    (there : state.tree.entry path = .ok (.file content time)) (awaits : state.Awaits path) :
    (watcher.advance state).Awaits path ∨ (watcher.advance state).lastRead? path = some (.ok content) := by
  obtain ⟨source, member, same⟩ := awaits
  obtain ⟨memory, tree, phase, reads⟩ := state
  cases phase with
  | resting => cases member
  | looking rest kept =>
    cases rest with
    | nil => exact .inl ⟨source, member, same⟩
    | cons first rest => exact .inl ⟨source, List.mem_append_left _ member, same⟩
  | translating rest =>
    cases rest with
    | nil => cases member
    | cons first rest =>
      unfold Watcher.advance
      dsimp only
      rcases List.mem_cons.mp member with rfl | member
      · obtain ⟨earlier, was⟩ := current.led source List.mem_cons_self
        have read :
            Keyed.get? (Keyed.set reads source.parts (tree.readBytes source)) path.parts = some (.ok content) := by
          rw [Keyed.get?_set, if_pos same.symm, readBytes_of_entry (entry_of_parts was same there)]
        split
        · exact .inr read
        · exact .inr read
      · split
        · exact .inl ⟨source, member, same⟩
        · exact .inl ⟨source, member, same⟩
  | writing written text rest =>
    unfold Watcher.advance
    dsimp only
    split
    · exact .inl ⟨source, member, same⟩
    · exact .inl ⟨source, member, same⟩

end Current
end State

variable {watcher : Watcher} {past : List FileTree} {state : State}

/-! A pass by itself. -/

/-- Whether a watcher by itself gets from one state to another. -/
def Advances (watcher : Watcher) : State → State → Prop :=
  Relation.ReflTransGen fun before after => after = watcher.advance before

theorem advances_look (watcher : Watcher) (memory : WatchMemory) (tree : FileTree) (paths kept : List Path)
    (reads : List (List String × Except FileError ByteArray)) :
    watcher.Advances ⟨memory, tree, .looking paths kept, reads⟩
      ⟨(memory.look tree.modified paths).1, tree,
        .translating (kept ++ (memory.look tree.modified paths).2), reads⟩ := by
  induction paths generalizing memory kept with
  | nil =>
    refine .single ?_
    simp [advance, WatchMemory.look]
  | cons path rest ih =>
    rw [WatchMemory.look_cons]
    have later := ih (memory.look tree.modified [path]).1 (kept ++ (memory.look tree.modified [path]).2)
    rw [List.append_assoc] at later
    exact .head rfl later

theorem advances_attempt (watcher : Watcher) (memory : WatchMemory) (tree : FileTree) (sources : List Path)
    (reads : List (List String × Except FileError ByteArray)) :
    ∃ later, watcher.Advances ⟨memory, tree, .translating sources, reads⟩
      ⟨memory, (watcher.translator.attempt tree sources).2, .resting, later⟩ := by
  induction sources generalizing tree reads with
  | nil => exact ⟨reads, .single rfl⟩
  | cons source rest ih =>
    let noted := Keyed.set reads source.parts (tree.readBytes source)
    unfold Translator.attempt Translator.translate
    cases rendered : watcher.translator.rendering tree source with
    | error =>
      obtain ⟨later, steps⟩ := ih tree noted
      exact ⟨later, .head (by simp [advance, rendered, noted]) steps⟩
    | ok text =>
      dsimp only
      cases written : tree.write (watcher.translator.outputPath source) text with
      | error =>
        obtain ⟨later, steps⟩ := ih tree noted
        refine ⟨later, .head (b := ⟨memory, tree, .writing source text rest, noted⟩) ?_ (.head ?_ steps)⟩
        · simp [advance, rendered, noted]
        · simp [advance, written]
      | ok after =>
        obtain ⟨later, steps⟩ := ih after noted
        refine ⟨later, .head (b := ⟨memory, tree, .writing source text rest, noted⟩) ?_ (.head ?_ steps)⟩
        · simp [advance, rendered, noted]
        · simp [advance, written]

/-- Without changes by others, the steps of a watcher make up its passes. -/
theorem advances_step (watcher : Watcher) (memory : WatchMemory) (tree : FileTree)
    (reads : List (List String × Except FileError ByteArray)) :
    ∃ later, watcher.Advances ⟨memory, tree, .resting, reads⟩
      ⟨(watcher.step memory tree).1, (watcher.step memory tree).2, .resting, later⟩ := by
  unfold step poll changed
  cases searched : discover tree watcher.folder watcher.extension with
  | error => exact ⟨reads, .refl⟩
  | ok found =>
    have looks := advances_look watcher memory tree found [] reads
    obtain ⟨later, attempts⟩ := advances_attempt watcher (memory.look tree.modified found).1 tree
      (memory.look tree.modified found).2 reads
    exact ⟨later, .head (b := ⟨memory, tree, .looking found [], reads⟩) (by simp [advance, searched])
      (looks.trans attempts)⟩

/-! Runs. -/

theorem Runs.current (runs : watcher.Runs past state) : state.Current past := by
  induction runs with
  | start tree => exact .start tree
  | own _ fresh ih => exact ih.advance fresh
  | others _ fresh ih => exact ih.renewed fresh

/-- A pass has every path once, as long as the tree in which it finds them is one that can be. -/
theorem nodup_listed_advance (whole : '/' ∉ watcher.extension.toList) (proper : state.tree.Proper)
    (single : state.tree.Single) (distinct : (state.listed.map Path.parts).Nodup) :
    ((watcher.advance state).listed.map Path.parts).Nodup := by
  obtain ⟨memory, tree, phase, reads⟩ := state
  cases phase with
  | resting =>
    unfold advance
    dsimp only
    split
    · exact distinct
    next found searched =>
      simpa [State.listed, State.waiting] using Search.nodup_discover proper single whole searched
  | looking rest kept =>
    cases rest with
    | nil => exact distinct
    | cons path rest =>
      change ((rest ++ (kept ++ (memory.look tree.modified [path]).2)).map Path.parts).Nodup
      change ((path :: rest ++ kept).map Path.parts).Nodup at distinct
      have new : (memory.look tree.modified [path]).2 = [] ∨ (memory.look tree.modified [path]).2 = [path] := by
        rw [WatchMemory.look_singleton]
        split
        · exact .inl rfl
        · dsimp only
          split
          · exact .inl rfl
          · exact .inr rfl
      rcases new with none | one
      · rw [none, List.append_nil]
        exact (List.nodup_cons.mp distinct).2
      · rw [one, ← List.append_assoc]
        exact ((List.perm_append_singleton path (rest ++ kept)).map Path.parts).nodup_iff.mpr distinct
  | translating rest =>
    cases rest with
    | nil => exact List.nodup_nil
    | cons source rest =>
      have later := (List.nodup_cons.mp distinct).2
      unfold advance
      dsimp only
      split
      · exact later
      · exact later
  | writing source text rest =>
    unfold advance
    dsimp only
    split
    · exact distinct
    · exact distinct

theorem Runs.distinct (runs : watcher.Runs past state) (whole : '/' ∉ watcher.extension.toList)
    (orderly : ∀ tree ∈ state.tree :: past, tree.Proper ∧ tree.Single) : (state.listed.map Path.parts).Nodup := by
  induction runs with
  | start tree => exact List.nodup_nil
  | own _ _ ih =>
    obtain ⟨_, orderly⟩ := List.forall_mem_cons.mp orderly
    obtain ⟨proper, single⟩ := orderly _ List.mem_cons_self
    exact nodup_listed_advance whole proper single (ih orderly)
  | others _ _ ih => exact ih (List.forall_mem_cons.mp orderly).2

theorem Runs.unchanged (runs : watcher.Runs past state) (next : State) (advances : watcher.advance state = next)
    (same : next.tree = state.tree) : watcher.Runs (state.tree :: past) next := by
  subst advances
  exact runs.own (same ▸ .refl past _)

/-- A file that a pass finds and leaves out, since it has the time that is remembered for it, holds what was read last;
that needs trees in which no search finds a path twice, and the rest does not. A file that the watcher finds is awaited
from then on, unless what was read last is what it holds. A file that is awaited stays so until it is read. And after a
pass, a file that still has the time that is remembered for it holds what was read last. -/
theorem Runs.loses_nothing (runs : watcher.Runs past state) {path : Path} {content : ByteArray} {time : Time}
    (there : state.tree.entry path = .ok (.file content time)) :
    ((∀ tree ∈ state.tree :: past, tree.Proper ∧ tree.Single) → '/' ∉ watcher.extension.toList →
      ∀ rest kept, state.phase = .looking (path :: rest) kept → state.memory.time? path = some time →
        state.lastRead? path = some (.ok content)) ∧
    (∀ rest kept, state.phase = .looking (path :: rest) kept →
      (watcher.advance state).Awaits path ∨ state.lastRead? path = some (.ok content)) ∧
    (state.Awaits path →
      (watcher.advance state).Awaits path ∨ (watcher.advance state).lastRead? path = some (.ok content)) ∧
    (state.phase = .resting → state.memory.time? path = some time → state.lastRead? path = some (.ok content)) := by
  have current := runs.current
  refine ⟨?_, ?_, current.awaited there, ?_⟩
  · intro orderly whole rest kept looking remembered
    refine (current.read path content time there remembered).resolve_left ?_
    rintro ⟨source, member, same⟩
    have distinct := runs.distinct whole orderly
    simp only [State.listed, State.waiting, looking] at distinct member
    exact (List.nodup_cons.mp distinct).1 (List.mem_map.mpr ⟨source, List.mem_append_right rest member, same⟩)
  · intro rest kept looking
    obtain ⟨memory, tree, phase, reads⟩ := state
    obtain rfl : phase = .looking (path :: rest) kept := looking
    have remembered : (memory.look tree.modified [path]).1.time? path = some time := by
      rw [WatchMemory.look_singleton, modified_of_entry there]
      exact (WatchMemory.time?_record memory path path time).trans (if_pos rfl)
    exact current.look.read path content time there remembered
  · intro resting remembered
    rcases current.read path content time there remembered with ⟨source, member, _⟩ | done
    · simp [State.waiting, resting] at member
    · exact done

/-- The source is removed and written anew between the look at its time and its reading. So it is read once more in
the next pass, and left out in the one after that. -/
theorem Runs.loses_nothing_between :
    let watcher : Watcher := ⟨⟨.rust Format.defaultRegistry, .permissive⟩, ⟨""⟩, "codl", 1000⟩
    let before : FileTree := ⟨[(["a.codl"], .file "ROUTE a".toUTF8 1)], [], 9⟩
    let after := (before.remove ["a.codl"]).put ["a.codl"] (.file "USING a".toUTF8 5)
    let state : State := ⟨⟨[(["a.codl"], 5)]⟩, after, .looking [⟨"a.codl"⟩] [],
      [(["a.codl"], .ok "USING a".toUTF8)]⟩
    (∃ past, before ∈ past ∧ watcher.Runs past state) ∧
      state.tree.entry ⟨"a.codl"⟩ = .ok (.file "USING a".toUTF8 5) ∧
      (watcher.advance state).waiting = [] ∧ state.lastRead? ⟨"a.codl"⟩ = some (.ok "USING a".toUTF8) := by
  intro watcher before after state
  have found (tree : FileTree) (opened : tree.isFolder ⟨"."⟩ = true) (listed : tree.names ⟨"."⟩ = ["a.codl"])
      (isFile : tree.isFile ⟨"a.codl"⟩ = true) : discover tree watcher.folder watcher.extension = .ok [⟨"a.codl"⟩] :=
    Search.discover_all ["a.codl"] (by simp [watcher, Search.IsPlain]) (by decide) opened listed (by decide +kernel)
      (by simpa using isFile) (List.pairwise_singleton ..) (List.pairwise_singleton ..)
  have searchedBefore := found before (by decide +kernel) (by decide +kernel) (by decide +kernel)
  have searchedAfter := found after (by decide +kernel) (by decide +kernel) (by decide +kernel)
  have there : after.entry ⟨"a.codl"⟩ = .ok (.file "USING a".toUTF8 5) := rfl
  have fresh : FileTree.Renewed [before, before, before, before] (before.remove ["a.codl"]) after := by
    refine .put ?_
    simp [before, FileTree.remove, FileTree.lookup, Keyed.get?, Keyed.erase]
  have none : (watcher.translator.rendering after ⟨"a.codl"⟩).toOption = none := by decide +kernel
  obtain ⟨error, refused⟩ : ∃ error, watcher.translator.rendering after ⟨"a.codl"⟩ = .error error := by
    cases rendered : watcher.translator.rendering after ⟨"a.codl"⟩ with
    | error error => exact ⟨error, rfl⟩
    | ok =>
      rw [rendered] at none
      cases none
  let read := [(["a.codl"], (Except.ok "USING a".toUTF8 : Except FileError ByteArray))]
  let once : WatchMemory := ⟨[(["a.codl"], 1)]⟩
  let twice : WatchMemory := ⟨[(["a.codl"], 5)]⟩
  have started : watcher.Runs [] { tree := before } := .start before
  have looked := started.unchanged ⟨.empty, before, .looking [⟨"a.codl"⟩] [], []⟩
    (by simp [advance, searchedBefore]) rfl
    |>.unchanged ⟨once, before, .looking [] [⟨"a.codl"⟩], []⟩ rfl rfl
    |>.unchanged ⟨once, before, .translating [⟨"a.codl"⟩], []⟩ rfl rfl
  have removed := looked.others (FileTree.Renewed.remove _ before ["a.codl"])
  have attempted := (removed.others fresh).unchanged ⟨once, after, .translating [], read⟩
    (by simp [advance, refused]; rfl) rfl
    |>.unchanged ⟨once, after, .resting, read⟩ rfl rfl
  have again := attempted.unchanged ⟨once, after, .looking [⟨"a.codl"⟩] [], read⟩ (by simp [advance, searchedAfter]) rfl
    |>.unchanged ⟨twice, after, .looking [] [⟨"a.codl"⟩], read⟩ rfl rfl
    |>.unchanged ⟨twice, after, .translating [⟨"a.codl"⟩], read⟩ rfl rfl
    |>.unchanged ⟨twice, after, .translating [], read⟩ (by simp [advance, refused]; rfl) rfl
    |>.unchanged ⟨twice, after, .resting, read⟩ rfl rfl
    |>.unchanged state (by simp [advance, searchedAfter, state, twice, read]) rfl
  have orderly : ∀ tree ∈ [after, before.remove ["a.codl"], before], tree.Proper ∧ tree.Single := by
    have alone (content : ByteArray) (time : Time) : FileTree.Proper ⟨[(["a.codl"], .file content time)], [], 9⟩ :=
      ⟨by simp +decide, by simp [FileTree.lookup], rfl⟩
    have empty : FileTree.Proper ⟨[], [], 9⟩ := ⟨List.forall_mem_nil _, List.forall_mem_nil _, rfl⟩
    intro tree member
    simp only [List.mem_cons, List.not_mem_nil, or_false] at member
    rcases member with rfl | rfl | rfl
    · exact ⟨alone _ _, by decide +kernel⟩
    · exact ⟨empty, by decide +kernel⟩
    · exact ⟨alone _ _, by decide +kernel⟩
  refine ⟨⟨_, by simp, again⟩, there, rfl, (again.loses_nothing there).1 ?_ (by decide) [] [] rfl rfl⟩
  intro tree member
  exact orderly tree (by simpa [state] using member)

end Watcher
end RouteDoc
