import RouteDoc.Watch

/-!
Looks at the times of paths, one after another. What is remembered of a path is the time at which it was
seen last (`time?_after`): looks in which it is not listed, or has no time, leave no trace of it.
-/

namespace RouteDoc

/-- A look at paths: those that are listed, and the time of each, if it has one. -/
structure Look where
  listed : List Path
  time : Path → Except FileError Time

namespace Look

/-- Whether no path is listed twice. -/
def Distinct (look : Look) : Prop := (look.listed.map Path.parts).Nodup

/-- The time at which a path is seen, if it is listed and has a time. -/
def seen? (look : Look) (path : Path) : Option Time :=
  look.listed.reverse.findSome? fun listed =>
    if listed.parts = path.parts then (look.time listed).toOption else none

theorem seen?_cons (time : Path → Except FileError Time) (first : Path) (rest : List Path) (path : Path) :
    seen? ⟨first :: rest, time⟩ path =
      (seen? ⟨rest, time⟩ path).or (if first.parts = path.parts then (time first).toOption else none) := by
  unfold seen?
  rw [List.reverse_cons, List.findSome?_append, List.findSome?_singleton]

end Look

namespace WatchMemory

/-- What is remembered after some looks. -/
def after (memory : WatchMemory) : List Look → WatchMemory
  | [] => memory
  | look :: rest => (memory.look look.time look.listed).1.after rest

theorem after_append (memory : WatchMemory) (looks others : List Look) :
    memory.after (looks ++ others) = (memory.after looks).after others := by
  induction looks generalizing memory with
  | nil => rfl
  | cons look rest ih => exact ih _

/-- A look remembers the times that it sees, and keeps all others. -/
theorem time?_look (time : Path → Except FileError Time) (memory : WatchMemory) (listed : List Path)
    (path : Path) :
    (memory.look time listed).1.time? path = (Look.seen? ⟨listed, time⟩ path).or (memory.time? path) := by
  induction listed generalizing memory with
  | nil => rfl
  | cons first rest ih =>
    rw [Look.seen?_cons, look, Option.or_assoc]
    cases time first with
    | error error => simp [ih, Except.toOption]
    | ok now =>
      dsimp only
      rw [ih, time?_record]
      by_cases same : path.parts = first.parts
      · simp [same, Except.toOption]
      · simp [same, Ne.symm same]

/-- What is remembered of a path after some looks is the time in the last look that saw it. -/
theorem time?_after (memory : WatchMemory) (looks : List Look) (path : Path) :
    (memory.after looks).time? path = (looks.reverse.findSome? (·.seen? path)).or (memory.time? path) := by
  induction looks generalizing memory with
  | nil => rfl
  | cons look rest ih =>
    rw [after, ih, time?_look, List.reverse_cons, List.findSome?_append, List.findSome?_singleton,
      Option.or_assoc]

end WatchMemory

namespace Watcher

/-- The look with which a pass starts. A search that fails lists nothing. -/
def look (watcher : Watcher) (tree : FileTree) : Look where
  listed :=
    match discover tree watcher.folder watcher.extension with
    | .error _ => []
    | .ok found => found
  time := tree.modified

/-- What is remembered after some passes, each over the files as they are then. -/
def remembered (watcher : Watcher) (memory : WatchMemory) : List FileTree → WatchMemory
  | [] => memory
  | tree :: rest => watcher.remembered (watcher.step memory tree).1 rest

end Watcher

end RouteDoc
