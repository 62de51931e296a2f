import RouteDoc.Files.Search
import RouteDoc.Translate

/-!
Watching a folder. In every pass the sources are looked for again, and those are translated whose
time of modification is not the one that was last seen; a source that was never seen counts as
changed. A failure does not keep other sources from being translated, and the source that failed is
tried again when it changes.
-/

namespace RouteDoc

/-- The times of modification that were last seen, by the parts of the paths. -/
structure WatchMemory where
  seen : List (List String × Time)
  deriving DecidableEq, Repr

namespace WatchMemory

/-- Nothing was seen yet. -/
def empty : WatchMemory := ⟨[]⟩

/-- The time that was last seen for a path. -/
def time? (memory : WatchMemory) (path : Path) : Option Time :=
  Keyed.get? memory.seen path.parts

/-- Keeps the time that was seen for a path, in place of an earlier one. -/
def record (memory : WatchMemory) (path : Path) (time : Time) : WatchMemory :=
  ⟨Keyed.set memory.seen path.parts time⟩

theorem time?_record (memory : WatchMemory) (seen path : Path) (time : Time) :
    (memory.record seen time).time? path =
      if path.parts = seen.parts then some time else memory.time? path :=
  Keyed.get?_set memory.seen seen.parts path.parts time

/-- Looks at paths in their order, and keeps those whose time is new. A path without a time is left
out and not remembered. -/
def look (time : Path → Except FileError Time) (memory : WatchMemory) :
    List Path → WatchMemory × List Path
  | [] => (memory, [])
  | path :: rest =>
    match time path with
    | .error _ => look time memory rest
    | .ok now =>
      let (later, kept) := look time (memory.record path now) rest
      (later, if memory.time? path = some now then kept else path :: kept)

/-- The events of looking at paths: those that have no time. -/
def lookEvents (time : Path → Except FileError Time) : List Path → List Event
  | [] => []
  | path :: rest =>
    match time path with
    | .error error => .unseen path.text error.message :: lookEvents time rest
    | .ok _ => lookEvents time rest

end WatchMemory

/-- What became of the sources that had changed. -/
structure PassReport where
  translated : List Path
  failed : List Path
  deriving DecidableEq, Repr

/-- Whether no source had changed. -/
def PassReport.isEmpty (report : PassReport) : Bool :=
  report.translated.isEmpty && report.failed.isEmpty

namespace Translator

variable (translator : Translator)

/-- Translates sources one by one, whatever becomes of the others. -/
def attempt (tree : FileTree) : List Path → PassReport × FileTree
  | [] => (⟨[], []⟩, tree)
  | source :: rest =>
    match translator.translate tree source with
    | .error _ =>
      let (report, last) := attempt tree rest
      ({ report with failed := source :: report.failed }, last)
    | .ok (_, after) =>
      let (report, last) := attempt after rest
      ({ report with translated := source :: report.translated }, last)

/-- The events of translating sources one by one, whatever becomes of the others, with the files at
each of them. -/
def attemptHistory (tree : FileTree) : List Path → List Moment
  | [] => []
  | source :: rest =>
    translator.translateHistory tree source ++
      match translator.translate tree source with
      | .error error => ⟨.translationFailed error.message, tree⟩ :: attemptHistory tree rest
      | .ok (_, after) => attemptHistory after rest

end Translator

/-- What is watched: the sources in a folder with an extension, every `period` milliseconds. -/
structure Watcher where
  translator : Translator
  folder : Path
  extension : String
  period : Nat

namespace Watcher

variable (watcher : Watcher)

/-- The sources of a folder that have changed, and the memory with the times that were seen. -/
def changed (memory : WatchMemory) (tree : FileTree) :
    Except SearchError (WatchMemory × List Path) :=
  match discover tree watcher.folder watcher.extension with
  | .error error => .error error
  | .ok found => .ok (memory.look tree.modified found)

/-- One pass: the sources that have changed are translated. -/
def poll (memory : WatchMemory) (tree : FileTree) :
    Except SearchError (PassReport × WatchMemory × FileTree) :=
  match watcher.changed memory tree with
  | .error error => .error error
  | .ok (later, sources) =>
    let (report, last) := watcher.translator.attempt tree sources
    .ok (report, later, last)

/-- The events of looking for sources and translating those that have changed, with the files at each
of them. -/
def pollHistory (memory : WatchMemory) (tree : FileTree) : List Moment :=
  match discover tree watcher.folder watcher.extension with
  | .error _ => []
  | .ok found =>
    Moment.allAt tree (WatchMemory.lookEvents tree.modified found) ++
      watcher.translator.attemptHistory tree (memory.look tree.modified found).2

/-- The event at the end of a pass, if there is one, with the files after the pass. -/
def closing (memory : WatchMemory) (tree : FileTree) : List Moment :=
  match watcher.poll memory tree with
  | .error error => [⟨.passFailed error.message, tree⟩]
  | .ok (report, _, last) =>
    if report.isEmpty then []
    else [⟨.passCompleted report.translated.length report.failed.length, last⟩]

/-- The memory and the files after a pass. A pass that fails changes neither. -/
def step (memory : WatchMemory) (tree : FileTree) : WatchMemory × FileTree :=
  match watcher.poll memory tree with
  | .error _ => (memory, tree)
  | .ok (_, later, last) => (later, last)

/-- The event at the start. -/
def openingEvent : Event :=
  .watching watcher.folder.text watcher.extension watcher.period

/-- The events of some passes one after another, with the files at each of them. Nothing but the
watcher changes the files. -/
def passes (memory : WatchMemory) (tree : FileTree) : Nat → List Moment
  | 0 => []
  | count + 1 =>
    let (later, next) := watcher.step memory tree
    watcher.pollHistory memory tree ++ watcher.closing memory tree ++ passes later next count

/-- The events of watching from the start, with the files at each of them. -/
def history (tree : FileTree) (count : Nat) : List Moment :=
  ⟨watcher.openingEvent, tree⟩ :: watcher.passes .empty tree count

end Watcher

end RouteDoc
