import Workbench.Files.Store
import Workbench.Log.Filter

/-!
The log file. It lies in a directory of its own, which is created if need be, and grows at its end.
-/

namespace Workbench

structure LogFile where
  path : Path
  filter : LogFilter
deriving DecidableEq, Repr

namespace LogFile

def name : String := "ocide.log"

/--
Opens the log in a directory. A filter in the environment counts more than the level, if it can be read.
-/
def start (store : FileStore) (dir : Path) (level : LogLevel) (override? : Option String) :
    Except FileError (LogFile × FileStore) := do
  let store ← store.makeDirectories dir
  let path := Path.join dir name
  let store ← store.append path .empty
  return (⟨path, (override?.bind LogFilter.parse?).getD (.ofLevel level)⟩, store)

def record (log : LogFile) (time : String) (e : LogEvent) (store : FileStore) :
    Except FileError FileStore :=
  if log.filter.allows e then store.append log.path (e.timedLine time).toUTF8 else .ok store

end LogFile

end Workbench
