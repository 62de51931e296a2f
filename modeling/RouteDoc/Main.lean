import RouteDoc.Command.Run

/-!
The program itself. It takes a picture of the files that a task can reach, carries the task out on
the picture, and writes the files that are different afterwards.
-/

namespace RouteDoc.Program

/-- The location that a path leads to, by its spelling alone. -/
def place (working : Location) (path : Path) : Location :=
  path.pieces.foldl (fun location piece =>
    if piece = "" ∨ piece = "." then location
    else if piece = ".." then location.dropLast
    else location ++ [piece]) (if path.isAbsolute then [] else working)

/-- A location as an absolute path. -/
def spell (location : Location) : String := "/" ++ Text.separated "/" location

/-- A time in nanoseconds. -/
def timeOf (time : IO.FS.SystemTime) : Time := time.sec * 1000000000 + time.nsec.toNat

/-- Sets the clock of a picture to a time after that of every file. -/
def wind (tree : FileTree) : FileTree :=
  { tree with clock := tree.entries.foldl (fun clock (_, entry) =>
      match entry with
      | .folder => clock
      | .file _ time => max clock (time + 1)) tree.clock }

/-- Adds what is at a location to a picture, if there is anything that can be read. -/
def look (tree : FileTree) (location : Location) : IO FileTree := do
  let file := (← IO.currentDir) / spell location
  try
    let found ← file.metadata
    if found.type == .dir then return tree.withFolder location
    return tree.withFile location (← IO.FS.readBinFile file) (timeOf found.modified)
  catch _ => return tree

/-- Adds a folder and all that is directly in it to a picture. -/
def lookInto (tree : FileTree) (location : Location) : IO FileTree := do
  let folder := (← IO.currentDir) / spell location
  let tree ← look tree location
  try
    let found ← folder.readDir
    found.foldlM (fun tree entry => look tree (location ++ [entry.fileName])) tree
  catch _ => return tree

/-- A picture of all that a task can reach: the settings files, and its folder or file. -/
def picture (invocation : Invocation) : IO FileTree := do
  let working := place [] ⟨(← IO.currentDir).toString⟩
  let start := FileTree.empty working 0
  let project : Path := ⟨Settings.projectFile⟩
  let files := project :: invocation.config.toList
  let named := files ++ files.map (·.addExtension "toml")
  let tree ← named.foldlM (fun tree path => look tree (place working path)) start
  match invocation.task with
  | .build folder | .watch folder _ => return wind (← lookInto tree (place working folder))
  | .inspect path => return wind (← look tree (place working path))

/-- Writes the files that are different in the second picture. -/
def save (before after : FileTree) : IO Unit := do
  for (location, content) in before.changes after do
    IO.FS.writeBinFile (spell location) content

/-- Watches for ever. -/
partial def watch (invocation : Invocation) (watcher : Watcher) (filter : LogFilter)
    (memory : WatchMemory) : IO Unit := do
  let tree ← picture invocation
  let (later, after) := watcher.step memory tree
  save tree after
  let pass := watcher.pollHistory memory tree ++ watcher.closing memory tree
  IO.eprint (filter.log (pass.map Moment.event))
  IO.sleep (min watcher.period 4294967295).toUInt32
  watch invocation watcher filter later

/-- Carries out a command line, and gives the exit code. -/
def start (arguments : List String) : IO Nat := do
  match Invocation.ofArguments arguments with
  | .error notice =>
    IO.print notice.output
    IO.eprint notice.report
    return notice.exitCode
  | .ok invocation =>
    let filter := invocation.filter (← IO.getEnv "RUST_LOG")
    let tree ← picture invocation
    match invocation.run tree with
    | .ended outcome =>
      save tree outcome.tree
      IO.eprint (filter.log outcome.events)
      IO.print outcome.ending.output
      IO.eprint outcome.ending.report
      return outcome.ending.exitCode
    | .watching watcher =>
      IO.eprint (filter.log [watcher.openingEvent])
      watch invocation watcher filter .empty
      return 0

end RouteDoc.Program

/-- The program, with the arguments it was called with. -/
def main (arguments : List String) : IO UInt32 := do
  return (← RouteDoc.Program.start arguments).toUInt32
