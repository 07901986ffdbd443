import Workbench.Files.Path

/-!
What the shell and the file host say to each other. Every request travels in an envelope with a version.
A picker that is canceled and a write that fails are ordinary outcomes.
-/

namespace Workbench

def protocolVersion : UInt16 := 1

inductive HostRequest where
  | openFile
  | saveFileAs (defaultName : String)
  | writeFile (path : Path) (content : String)
deriving DecidableEq, Repr

def HostRequest.channel : HostRequest → String
  | openFile => "dialog:openFile"
  | saveFileAs _ => "dialog:saveFileAs"
  | writeFile _ _ => "file:write"

structure Envelope where
  version : UInt16
  request : HostRequest
deriving DecidableEq, Repr

def Envelope.of (request : HostRequest) : Envelope :=
  ⟨protocolVersion, request⟩

inductive FileOpenResult where
  | canceled
  | opened (path : Path) (content : String)
  | failed (error : String)
deriving DecidableEq, Repr

inductive SaveTarget where
  | canceled
  | chosen (filePath : Path)
  | failed (error : String)
deriving DecidableEq, Repr

inductive WriteOutcome where
  | written (path : Path)
  | failed (error : String)
deriving DecidableEq, Repr

inductive HostResponse where
  | openResult (result : FileOpenResult)
  | saveTarget (target : SaveTarget)
  | writeOutcome (outcome : WriteOutcome)
  | rejected (error : String)
deriving DecidableEq, Repr

def HostResponse.kind : HostResponse → String
  | openResult _ => "open"
  | saveTarget _ => "save_target"
  | writeOutcome _ => "write"
  | rejected _ => "rejected"

structure RunRequest where
  code : String
deriving DecidableEq, Repr

structure RunResponse where
  output : String
deriving DecidableEq, Repr

end Workbench
