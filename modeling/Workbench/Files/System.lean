import Workbench.Files.Store

/-!
Files as a host sees them. Reading and writing may fail at any time, and then say why.
-/

namespace Workbench

/-- A type whose values hold files. -/
class FileSystem (φ : Type) where
  readText : Path → StateM φ (Except String String)
  write : Path → ByteArray → StateM φ (Except String Unit)

instance : FileSystem FileStore where
  readText path := fun s => ((s.readText path).mapError FileError.message, s)
  write path content := fun s =>
    match s.write path content with
    | .ok s => (.ok (), s)
    | .error e => (.error e.message, s)

end Workbench
