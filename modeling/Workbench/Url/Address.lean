import Workbench.Url.Host

/-!
Addresses of resources: a scheme, what follows it, a query and a fragment. The schemes of the web always
have a host and take backslashes for slashes.
-/

namespace Workbench

structure Url where
  scheme : List Char
  authority? : Option (List Char) := none
  path : List Char
  query? : Option (List Char) := none
  fragment? : Option (List Char) := none
deriving DecidableEq, Repr

namespace Url

def render (u : Url) : String :=
  let optional (mark : List Char) (part? : Option (List Char)) : List Char :=
    part?.elim [] (mark ++ ·)
  String.ofList (u.scheme ++ [':'] ++ optional ['/', '/'] u.authority? ++ u.path ++
    optional ['?'] u.query? ++ optional ['#'] u.fragment?)

def target (u : Url) : String :=
  String.ofList (u.path ++ u.query?.elim [] ('?' :: ·))

def webPorts : List (String × Nat) :=
  [("http", 80), ("https", 443), ("ws", 80), ("wss", 443), ("ftp", 21)]

inductive Family where
  | web (port : Nat)
  | file
  | other
deriving DecidableEq, Repr

def Family.ofScheme (scheme : List Char) : Family :=
  if scheme = "file".toList then .file
  else (webPorts.lookup (String.ofList scheme)).elim .other .web

def Family.isSlash (f : Family) (c : Char) : Bool :=
  c = '/' || (c = '\\' && f ≠ .other)

def splitScheme? (cs : List Char) : Option (List Char × List Char) :=
  let inner (c : Char) : Bool := c.isAlphanum || c = '+' || c = '-' || c = '.'
  match cs.head?, cs.dropWhile inner with
  | some first, ':' :: rest =>
    if first.isAlpha then some ((cs.takeWhile inner).map Char.toLower, rest) else none
  | _, _ => none

def readPort (f : Family) (cs : List Char) : Except Fault (List Char) :=
  if cs.all Char.isDigit then
    match digits? 10 cs with
    | some n =>
      if 65535 < n then .error .invalidPort
      else if cs.isEmpty ∨ f = .web n then .ok []
      else .ok (':' :: (toString n).toList)
    | none => .error .invalidPort
  else .error .invalidPort

def splitPort (cs : List Char) : List Char × List Char :=
  go false cs
where
  go (inside : Bool) : List Char → List Char × List Char
    | [] => ([], [])
    | c :: cs =>
      if c = ':' ∧ ¬ inside then ([], c :: cs)
      else
        let (host, rest) := go (if c = '[' then true else if c = ']' then false else inside) cs
        (c :: host, rest)

def splitUser (cs : List Char) : Option (List Char) × List Char :=
  if cs.contains '@' then
    (some (cs.reverse.dropWhile (· ≠ '@')).reverse.dropLast, (cs.reverse.takeWhile (· ≠ '@')).reverse)
  else (none, cs)

def renderUser (cs : List Char) : List Char :=
  let name := encode .userinfo (cs.takeWhile (· ≠ ':'))
  let password := encode .userinfo ((cs.dropWhile (· ≠ ':')).drop 1)
  if name.isEmpty ∧ password.isEmpty then []
  else name ++ (if password.isEmpty then [] else ':' :: password) ++ ['@']

def readAuthority (f : Family) (cs : List Char) : Except Fault (List Char) := do
  let (user?, rest) := splitUser cs
  let (host, port) := splitPort rest
  if host.isEmpty ∧ (f ≠ .other ∨ user?.isSome ∨ ¬ port.isEmpty) then throw .emptyHost
  let host ← if f = .other then readOpaqueHost host else readHost host
  let port ← readPort f (port.drop 1)
  return user?.elim [] renderUser ++ host ++ port

def dots? (segment : List Char) : Option Nat :=
  let plain := (String.ofList (segment.map Char.toLower)).replace "%2e" "."
  if plain = "." then some 1 else if plain = ".." then some 2 else none

def resolveSegments (done : List (List Char)) : List (List Char) → List (List Char)
  | [] => done
  | segment :: rest =>
    let done := match dots? segment with
      | some n => (if n = 2 then done.dropLast else done) ++ (if rest.isEmpty then [[]] else [])
      | none => done ++ [encode .path segment]
    resolveSegments done rest

def readPath (f : Family) (cs : List Char) : List Char :=
  let cs := if cs.head?.any f.isSlash then cs.drop 1 else cs
  let segments := Text.splitAt '/' (cs.map fun c => if f.isSlash c then '/' else c)
  (resolveSegments [] segments).flatMap ('/' :: ·)

def readHierarchy (scheme rest : List Char) : Except Fault Url := do
  let f := Family.ofScheme scheme
  let outside (c : Char) : Bool := !f.isSlash c
  let slashes := (rest.takeWhile f.isSlash).length
  match f with
  | .web _ =>
    let rest := rest.dropWhile f.isSlash
    let authority ← readAuthority f (rest.takeWhile outside)
    return { scheme, authority? := some authority, path := readPath f (rest.dropWhile outside) }
  | .file =>
    if 2 ≤ slashes then
      let rest := rest.drop 2
      let name := rest.takeWhile outside
      let host ← if name.isEmpty then pure [] else readHost name
      let host := if host = "localhost".toList then [] else host
      return { scheme, authority? := some host, path := readPath f (rest.dropWhile outside) }
    else return { scheme, authority? := some [], path := readPath f rest }
  | .other =>
    if 2 ≤ slashes then
      let rest := rest.drop 2
      let authority ← readAuthority f (rest.takeWhile outside)
      let path := rest.dropWhile outside
      return { scheme, authority? := some authority, path := if path.isEmpty then [] else readPath f path }
    else if slashes = 1 then return { scheme, path := readPath f rest }
    else return { scheme, path := encode .controls rest }

def clean (cs : List Char) : List Char :=
  let edge (c : Char) : Bool := c ≤ ' '
  (Text.dropTrailing edge (cs.dropWhile edge)).filter fun c => c ≠ '\t' && c ≠ '\n' && c ≠ '\r'

def parse (s : String) : Except Fault Url := do
  let cs := clean s.toList
  let some (scheme, rest) := splitScheme? cs | throw .relative
  let address := rest.takeWhile (· ≠ '#')
  let fragment := rest.dropWhile (· ≠ '#')
  let query := address.dropWhile (· ≠ '?')
  let u ← readHierarchy scheme (address.takeWhile (· ≠ '?'))
  let set : EncodeSet := match Family.ofScheme scheme with
    | .other => .query
    | _ => .specialQuery
  return { u with
    query? := if query.isEmpty then none else some (encode set (query.drop 1))
    fragment? := if fragment.isEmpty then none else some (encode .fragment (fragment.drop 1)) }

def isHttp (u : Url) : Bool :=
  u.scheme = "http".toList || u.scheme = "https".toList

end Url

end Workbench
