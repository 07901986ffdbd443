import Workbench.Service.Status
import Workbench.Url.Address

/-!
Why the service gave no result.
-/

namespace Workbench

inductive TransportFault where
  | address (fault : Url.Fault)
  | scheme (url : String)
  | connection
deriving DecidableEq, Repr

def TransportFault.message : TransportFault → String
  | address fault => s!"builder error: {fault.message}"
  | scheme url => s!"builder error for url ({url}): URL scheme is not allowed"
  | connection => "error sending request"

inductive ServiceError where
  | transport (fault : TransportFault)
  | status (code : Nat) (detail : String)
  | malformed (reason : String)
deriving DecidableEq, Repr

def ServiceError.message : ServiceError → String
  | transport fault => s!"could not reach service: {fault.message}"
  | status code detail => s!"service responded with status {code}: {detail}"
  | malformed reason => s!"malformed response: {reason}"

abbrev RunResult := Except ServiceError String

abbrev ListResult := Except ServiceError (List String)

end Workbench
