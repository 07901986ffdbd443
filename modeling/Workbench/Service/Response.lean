import Workbench.Json.Record
import Workbench.Service.Error

/-!
What the responses of the service say. A response counts as a success if its status does. Otherwise the
detail of the error is the text that the body holds in the form meant for it, else the name of the status.
-/

namespace Workbench

def outputForm : Json.RecordForm := ⟨"RunResponse", "output"⟩

def directoryErrorForm : Json.RecordForm := ⟨"DirectoryError", "error"⟩

namespace Status

def reasonOr (s : Status) : String :=
  s.reason?.getD "unexpected status"

def failure (s : Status) (detail : Except Json.ReadError (List Char)) : ServiceError :=
  .status s.code (match detail with
    | .ok text => String.ofList text
    | .error _ => s.reasonOr)

def runResult (s : Status) (body : List Char) : RunResult :=
  let decoded := Json.readAll (Json.readRecord outputForm) body
  if s.isSuccess then
    match decoded with
    | .ok output => .ok (String.ofList output)
    | .error e => .error (.malformed (e.message body))
  else .error (s.failure decoded)

def listResult (s : Status) (body : List Char) : ListResult :=
  if s.isSuccess then
    match Json.readAll Json.readTexts body with
    | .ok names => .ok (names.map String.ofList)
    | .error e => .error (.malformed (e.message body))
  else .error (s.failure (Json.readAll (Json.readRecord directoryErrorForm) body))

def pingResult (s : Status) (body : List Char) : Except ServiceError String :=
  if s.isSuccess then .ok (String.ofList body)
  else .error (.status s.code (String.ofList (body.take 200)))

end Status

end Workbench
