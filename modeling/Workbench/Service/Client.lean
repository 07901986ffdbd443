import Workbench.Json.Value
import Workbench.Log.Event
import Workbench.Service.Charset
import Workbench.Service.Response

/-!
Asking the service. A request goes to the address of the service with the path of the call appended, and the
whole response is read before it is looked at.
-/

namespace Workbench

structure ServiceClient where
  baseUrl : String
deriving DecidableEq, Repr

inductive ServiceCall where
  | run (code : String)
  | listFunctions
  | ping
deriving DecidableEq, Repr

structure HttpRequest where
  method : String
  target : String
  contentType? : Option String := none
  body : String := ""
deriving DecidableEq, Repr

def HttpRequest.line (r : HttpRequest) : String :=
  s!"{r.method} {r.target} HTTP/1.1"

structure HttpResponse where
  statusLine : List Char
  headers : List (String × String)
  body : List UInt8
  complete : Bool := true
deriving DecidableEq, Repr

inductive Connection where
  | refused
  | silent
  | answered (response : HttpResponse)
deriving DecidableEq, Repr

namespace HttpResponse

def status? (r : HttpResponse) : Option Status :=
  match r.statusLine with
  | [a, b, c] => ofDigits? a b c
  | a :: b :: c :: ' ' :: _ => ofDigits? a b c
  | _ => none
where
  ofDigits? (a b c : Char) : Option Status :=
    if [a, b, c].all Char.isDigit then
      Status.ofNat? ([a, b, c].foldl (fun n d => n * 10 + (d.toNat - '0'.toNat)) 0)
    else none

def header? (r : HttpResponse) (name : String) : Option String :=
  (r.headers.find? fun h => Unicode.lowerAscii h.1 = name).map (·.2)

def text (r : HttpResponse) : List Char :=
  ((r.header? "content-type").elim .utf8 Charset.ofContentType).decodeBody r.body

def redirects (r : HttpResponse) (s : Status) : Bool :=
  [301, 302, 303, 307, 308].contains s.code && (r.header? "location").isSome

/--
The status and the text of a response that has come to its end. Some statuses never come with a body, and
those below 200 are not the end.
-/
def read? (r : HttpResponse) : Option (Status × List Char) :=
  r.status?.bind fun s =>
    if s.code < 200 ∨ r.redirects s then none
    else if s.code = 204 ∨ s.code = 304 then some (s, [])
    else if r.complete then some (s, r.text) else none

end HttpResponse

namespace ServiceCall

def path : ServiceCall → String
  | run _ => "/run"
  | listFunctions => "/functions"
  | ping => "/ping"

def request (call : ServiceCall) (url : Url) : HttpRequest :=
  match call with
  | run code =>
    { method := "POST", target := url.target
      contentType? := some "application/json"
      body := (Json.obj [("code", .str code)]).render }
  | _ => { method := "GET", target := url.target }

end ServiceCall

namespace ServiceClient

def ofUrl (url : String) : ServiceClient where
  baseUrl := Text.dropTrailingSlashes url

def url (c : ServiceClient) (call : ServiceCall) : Except TransportFault Url :=
  match Url.parse (c.baseUrl ++ call.path) with
  | .error fault => .error (.address fault)
  | .ok url => if url.isHttp then .ok url else .error (.scheme url.render)

def fetch (c : ServiceClient) (call : ServiceCall) (connection : Connection) :
    Option HttpRequest × Except ServiceError (Status × List Char) :=
  match c.url call with
  | .error fault => (none, .error (.transport fault))
  | .ok url =>
    let answer (response? : Option (Status × List Char)) : Except ServiceError (Status × List Char) :=
      response?.elim (.error (.transport .connection)) .ok
    match connection with
    | .refused => (none, answer none)
    | .silent => (some (call.request url), answer none)
    | .answered response => (some (call.request url), answer response.read?)

def runEvent (s : Status) (result : RunResult) : LogEvent :=
  let status := ("status", LogValue.plain s.render)
  match result with
  | .ok output =>
    { level := .debug, target := "ocide::service::client", message := "run completed"
      fields := [status, ("bytes", .number output.utf8ByteSize)] }
  | .error e =>
    { level := .warn, target := "ocide::service::client", message := "run failed"
      fields := [status, ("error", .plain e.message)] }

def runOutcome (response : Except ServiceError (Status × List Char)) : RunResult × List LogEvent :=
  match response with
  | .error e => (.error e, [])
  | .ok (s, body) => (s.runResult body, [runEvent s (s.runResult body)])

end ServiceClient

end Workbench
