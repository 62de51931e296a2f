import RouteDoc.Watch

/-!
Watching while others change the files. A pass is taken apart into the steps at which it touches the
files: the search, a look at the time of one path, the reading of one source and the writing of its
output. Between any two of them the files may change.
-/

namespace RouteDoc

/-- Whether every file that a tree holds anew has a time that nothing at its path had before: neither
in the tree that was there last nor in any before it. -/
def FileTree.Renewed (past : List FileTree) (before after : FileTree) : Prop :=
  ∀ path content time, after.entry path = .ok (.file content time) →
    before.entry path = .ok (.file content time) ∨
      ∀ earlier ∈ before :: past, earlier.modified path ≠ .ok time

namespace Watcher

/-- What is left of a pass: paths to look at, with those that were kept so far; sources to translate;
or an output to write, and the sources after it. -/
inductive Phase
  | resting
  | looking (rest kept : List Path)
  | translating (rest : List Path)
  | writing (source : Path) (text : String) (rest : List Path)

/-- A watcher between two steps. What was read when a source was last translated plays no part in any
step; it is noted to tell what became of a change. -/
structure State where
  memory : WatchMemory := .empty
  tree : FileTree
  phase : Phase := .resting
  reads : List (List String × Except FileError ByteArray) := []

namespace State

/-- What was read when a source was last translated, if it ever was. -/
def lastRead? (state : State) (path : Path) : Option (Except FileError ByteArray) :=
  Keyed.get? state.reads path.parts

/-- The sources that the pass has kept and not yet read. -/
def waiting (state : State) : List Path :=
  match state.phase with
  | .resting => []
  | .looking _ kept => kept
  | .translating rest | .writing _ _ rest => rest

/-- Whether the pass has kept a path and has not read it yet. -/
def Awaits (state : State) (path : Path) : Prop := ∃ source ∈ state.waiting, source.parts = path.parts

end State

variable (watcher : Watcher)

/-- The next step of a watcher. -/
def advance (state : State) : State :=
  match state.phase with
  | .resting =>
    match discover state.tree watcher.folder watcher.extension with
    | .error _ => state
    | .ok found => { state with phase := .looking found [] }
  | .looking [] kept => { state with phase := .translating kept }
  | .looking (path :: rest) kept =>
    let (memory, new) := state.memory.look state.tree.modified [path]
    { state with memory, phase := .looking rest (kept ++ new) }
  | .translating [] => { state with phase := .resting }
  | .translating (source :: rest) =>
    let reads := Keyed.set state.reads source.parts (state.tree.readBytes source)
    match watcher.translator.rendering state.tree source with
    | .error _ => { state with reads, phase := .translating rest }
    | .ok text => { state with reads, phase := .writing source text rest }
  | .writing source text rest =>
    match state.tree.write (watcher.translator.outputPath source) text with
    | .error _ => { state with phase := .translating rest }
    | .ok after => { state with tree := after, phase := .translating rest }

/-- The states of a watcher from its start on, each with the trees before it, the latest first. Steps of
the watcher and changes by others come in any order; whatever is written has a new time. -/
inductive Runs : List FileTree → State → Prop
  | start (tree : FileTree) : Runs [] { tree }
  | own {past : List FileTree} {state : State} : Runs past state →
      FileTree.Renewed past state.tree (watcher.advance state).tree →
      Runs (state.tree :: past) (watcher.advance state)
  | others {past : List FileTree} {state : State} {after : FileTree} : Runs past state →
      FileTree.Renewed past state.tree after → Runs (state.tree :: past) { state with tree := after }

end Watcher

end RouteDoc
