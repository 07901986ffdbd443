import Workbench.Bridge.Message
import Workbench.Json.Value

/-!
Messages as JSON. Records are read from objects, whose other members do not matter, or from arrays with
exactly their fields in order. A request has its channel beside its arguments; an outcome has its tag
among its fields, and the outcome inside a response shares one object with the kind of the response.
-/

namespace Workbench

namespace Json

def asString? : Json → Option String
  | str s => some s
  | _ => none

def asUInt16? : Json → Option UInt16
  | int n => if 0 ≤ n ∧ n < 65536 then some (UInt16.ofNat n.toNat) else none
  | _ => none

def members? (names : List String) : Json → Option (List Json)
  | obj ms => names.mapM (member? · ms)
  | _ => none

def fields? (names : List String) : Json → Option (List Json)
  | arr items => if items.length = names.length then some items else none
  | v => v.members? names

/-- The tag of a tagged record and the record without it. -/
def untag? (tag : String) : Json → Option (Json × Json)
  | obj ms => (member? tag ms).map (·, obj (ms.filter (·.1 ≠ tag)))
  | arr (v :: vs) => some (v, arr vs)
  | _ => none

/-- A record without fields: any object, or an array that has come to its end. -/
def isEmptyRecord : Json → Bool
  | obj _ => true
  | arr [] => true
  | _ => false

end Json

/-- How the tag of an outcome may be written: always by its name, and inside of another tagged record
also by its number. -/
inductive TagStyle where
  | named
  | namedOrNumbered
deriving DecidableEq, Repr

def TagStyle.read? (style : TagStyle) (names : List String) : Json → Option Nat
  | .str s => names.findIdx? (· = s)
  | .int n => if style = .namedOrNumbered ∧ 0 ≤ n ∧ n.toNat < names.length then some n.toNat else none
  | _ => none

namespace HostRequest

def toJson : HostRequest → Json
  | openFile => .obj [("channel", .str "dialog:openFile")]
  | saveFileAs defaultName =>
    .obj [("channel", .str "dialog:saveFileAs"), ("args", .obj [("defaultName", .str defaultName)])]
  | writeFile path content =>
    .obj [("channel", .str "file:write"),
      ("args", .obj [("path", .str path), ("content", .str content)])]

def ofParts? (channel : Json) (args : Option Json) : Option HostRequest :=
  match channel, args with
  | .str "dialog:openFile", none | .str "dialog:openFile", some .null => some openFile
  | .str "dialog:saveFileAs", some args =>
    match args.members? ["defaultName"] with
    | some [name] => saveFileAs <$> name.asString?
    | _ => none
  | .str "file:write", some args =>
    match args.members? ["path", "content"] with
    | some [path, content] => writeFile <$> path.asString? <*> content.asString?
    | _ => none
  | _, _ => none

def ofJson? : Json → Option HostRequest
  | .obj ms => (Json.member? "channel" ms).bind (ofParts? · (Json.member? "args" ms))
  | .arr [channel, args] => ofParts? channel (some args)
  | _ => none

end HostRequest

namespace Envelope

def toJson (e : Envelope) : Json :=
  .obj [("version", .int e.version.toNat), ("request", e.request.toJson)]

def ofJson? (v : Json) : Option Envelope :=
  match v.fields? ["version", "request"] with
  | some [version, request] => Envelope.mk <$> version.asUInt16? <*> HostRequest.ofJson? request
  | _ => none

end Envelope

namespace FileOpenResult

def members : FileOpenResult → List (String × Json)
  | canceled => [("outcome", .str "canceled")]
  | opened path content => [("outcome", .str "opened"), ("path", .str path), ("content", .str content)]
  | failed error => [("outcome", .str "failed"), ("error", .str error)]

def toJson (r : FileOpenResult) : Json :=
  .obj r.members

def ofJson? (style : TagStyle) (v : Json) : Option FileOpenResult := do
  let (tag, rest) ← v.untag? "outcome"
  match ← style.read? ["canceled", "opened", "failed"] tag with
  | 0 => if rest.isEmptyRecord then some canceled else none
  | 1 =>
    match ← rest.fields? ["path", "content"] with
    | [path, content] => opened <$> path.asString? <*> content.asString?
    | _ => none
  | _ =>
    match ← rest.fields? ["error"] with
    | [error] => failed <$> error.asString?
    | _ => none

end FileOpenResult

namespace SaveTarget

def members : SaveTarget → List (String × Json)
  | canceled => [("outcome", .str "canceled")]
  | chosen filePath => [("outcome", .str "chosen"), ("filePath", .str filePath)]
  | failed error => [("outcome", .str "failed"), ("error", .str error)]

def toJson (r : SaveTarget) : Json :=
  .obj r.members

def ofJson? (style : TagStyle) (v : Json) : Option SaveTarget := do
  let (tag, rest) ← v.untag? "outcome"
  match ← style.read? ["canceled", "chosen", "failed"] tag with
  | 0 => if rest.isEmptyRecord then some canceled else none
  | 1 =>
    match ← rest.fields? ["filePath"] with
    | [filePath] => chosen <$> filePath.asString?
    | _ => none
  | _ =>
    match ← rest.fields? ["error"] with
    | [error] => failed <$> error.asString?
    | _ => none

end SaveTarget

namespace WriteOutcome

def members : WriteOutcome → List (String × Json)
  | written path => [("outcome", .str "written"), ("path", .str path)]
  | failed error => [("outcome", .str "failed"), ("error", .str error)]

def toJson (r : WriteOutcome) : Json :=
  .obj r.members

def ofJson? (style : TagStyle) (v : Json) : Option WriteOutcome := do
  let (tag, rest) ← v.untag? "outcome"
  match ← style.read? ["written", "failed"] tag with
  | 0 =>
    match ← rest.fields? ["path"] with
    | [path] => written <$> path.asString?
    | _ => none
  | _ =>
    match ← rest.fields? ["error"] with
    | [error] => failed <$> error.asString?
    | _ => none

end WriteOutcome

namespace HostResponse

/-- A response as a record tagged with its kind. An outcome has its fields beside the kind. -/
def toJson : HostResponse → Json
  | openResult r => .obj (("kind", .str "open") :: r.members)
  | saveTarget t => .obj (("kind", .str "save_target") :: t.members)
  | writeOutcome o => .obj (("kind", .str "write") :: o.members)
  | rejected error => .obj [("kind", .str "rejected"), ("error", .str error)]

def ofJson? (v : Json) : Option HostResponse := do
  let (tag, rest) ← v.untag? "kind"
  match ← TagStyle.named.read? ["open", "save_target", "write", "rejected"] tag with
  | 0 => openResult <$> FileOpenResult.ofJson? .namedOrNumbered rest
  | 1 => saveTarget <$> SaveTarget.ofJson? .namedOrNumbered rest
  | 2 => writeOutcome <$> WriteOutcome.ofJson? .namedOrNumbered rest
  | _ =>
    match ← rest.fields? ["error"] with
    | [error] => rejected <$> error.asString?
    | _ => none

end HostResponse

namespace RunRequest

def toJson (r : RunRequest) : Json :=
  .obj [("code", .str r.code)]

def ofJson? (v : Json) : Option RunRequest := do
  match ← v.fields? ["code"] with
  | [code] => RunRequest.mk <$> code.asString?
  | _ => none

end RunRequest

namespace RunResponse

def toJson (r : RunResponse) : Json :=
  .obj [("output", .str r.output)]

def ofJson? (v : Json) : Option RunResponse := do
  match ← v.fields? ["output"] with
  | [output] => RunResponse.mk <$> output.asString?
  | _ => none

end RunResponse

end Workbench
