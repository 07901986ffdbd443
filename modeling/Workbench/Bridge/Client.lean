import Workbench.Bridge.Message

/-!
The shell's side of the bridge: what it makes of the reply to a request, or of there being none.
-/

namespace Workbench

inductive BridgeError where
  | disconnected
  | rejected (reason : String)
  | unexpectedResponse (channel got : String)
deriving DecidableEq, Repr

def BridgeError.message : BridgeError → String
  | disconnected => "file host is not running"
  | rejected reason => s!"file host rejected the request: {reason}"
  | unexpectedResponse channel got => s!"file host answered {channel} with a {got} response"

namespace HostResponse

def mismatch (request : HostRequest) : Option HostResponse → BridgeError
  | none => .disconnected
  | some (rejected reason) => .rejected reason
  | some other => .unexpectedResponse request.channel other.kind

def asOpenResult (reply : Option HostResponse) : Except BridgeError FileOpenResult :=
  match reply with
  | some (openResult r) => .ok r
  | reply => .error (mismatch .openFile reply)

def asSaveTarget (defaultName : String) (reply : Option HostResponse) :
    Except BridgeError SaveTarget :=
  match reply with
  | some (saveTarget t) => .ok t
  | reply => .error (mismatch (.saveFileAs defaultName) reply)

def asWriteOutcome (path : Path) (content : String) (reply : Option HostResponse) :
    Except BridgeError WriteOutcome :=
  match reply with
  | some (writeOutcome o) => .ok o
  | reply => .error (mismatch (.writeFile path content) reply)

end HostResponse

end Workbench
