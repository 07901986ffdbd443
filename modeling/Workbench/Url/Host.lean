import Workbench.Text.Lines
import Workbench.Unicode.Case
import Workbench.Url.Percent

/-!
The hosts of addresses: names, and the numbers of both versions of the internet protocol. A name whose last
label is a number has to be a number of four bytes as a whole, in any of the customary notations.
-/

namespace Workbench.Url

inductive Fault where
  | relative
  | emptyHost
  | invalidName
  | invalidPort
  | invalidIpv4
  | invalidIpv6
  | invalidCharacter
deriving DecidableEq, Repr

def Fault.message : Fault → String
  | relative => "relative URL without a base"
  | emptyHost => "empty host"
  | invalidName => "invalid international domain name"
  | invalidPort => "invalid port number"
  | invalidIpv4 => "invalid IPv4 address"
  | invalidIpv6 => "invalid IPv6 address"
  | invalidCharacter => "invalid domain character"

def digits? (base : Nat) (cs : List Char) : Option Nat :=
  cs.foldlM (fun n c => (Text.hexValue? c).bind fun d => if d < base then some (n * base + d) else none) 0

/-- A number in hexadecimal notation after `0x`, in octal notation after `0`, and else in decimal notation. -/
def number? : List Char → Option Nat
  | [] => none
  | '0' :: 'x' :: cs | '0' :: 'X' :: cs => digits? 16 cs
  | '0' :: c :: cs => digits? 8 (c :: cs)
  | cs => digits? 10 cs

/-- The labels of a name. An empty one at the end does not count. -/
def labels (cs : List Char) : List (List Char) :=
  let all := Text.splitAt '.' cs
  if 1 < all.length ∧ all.getLast? = some [] then all.dropLast else all

def endsInNumber (cs : List Char) : Bool :=
  match (labels cs).getLast? with
  | none | some [] => false
  | some last => last.all Char.isDigit || (number? last).isSome

/-- Up to four numbers as one, of which the last fills the bytes that the others leave. -/
def ipv4? (cs : List Char) : Option Nat := do
  let numbers ← (labels cs).mapM number?
  let last ← numbers.getLast?
  let first := numbers.dropLast
  if 3 < first.length ∨ first.any (255 < ·) ∨ Nat.pow 256 (4 - first.length) ≤ last then none
  else some (first.foldl (fun n part => n * 256 + part) 0 * Nat.pow 256 (4 - first.length) + last)

def renderIpv4 (n : Nat) : List Char :=
  (String.intercalate "." ([0x1000000, 0x10000, 0x100, 1].map fun k => toString (n / k % 256))).toList

def group? (cs : List Char) : Option Nat :=
  if cs.isEmpty ∨ 4 < cs.length then none else digits? 16 cs

def byteGroups? (cs : List Char) : Option (List Nat) := do
  let bytes ← (Text.splitAt '.' cs).mapM fun part =>
    if part.isEmpty ∨ 1 < part.length ∧ part.head? = some '0' then none
    else (digits? 10 part).filter (· ≤ 255)
  match bytes with
  | [a, b, c, d] => some [a * 256 + b, c * 256 + d]
  | _ => none

def groups? (cs : List Char) : Option (List Nat) :=
  if cs.isEmpty then some []
  else
    let parts := Text.splitAt ':' cs
    let last := parts.getLastD []
    if last.contains '.' then do
      let front ← parts.dropLast.mapM group?
      let back ← byteGroups? last
      return front ++ back
    else parts.mapM group?

def splitDoubleColon : List Char → Option (List Char × List Char)
  | ':' :: ':' :: cs => some ([], cs)
  | c :: cs => (splitDoubleColon cs).map fun p => (c :: p.1, p.2)
  | [] => none

/-- Eight groups, of which two colons in a row may stand for zeros. -/
def ipv6? (cs : List Char) : Option (List Nat) := do
  match splitDoubleColon cs with
  | none =>
    let groups ← groups? cs
    if groups.length = 8 then some groups else none
  | some (before, after) =>
    let front ← groups? before
    let back ← groups? after
    if front.length + back.length < 8 ∧ ¬ before.contains '.' then
      some (front ++ List.replicate (8 - front.length - back.length) 0 ++ back)
    else none

def zeroRun (groups : List Nat) : Nat :=
  (groups.takeWhile (· = 0)).length

def longestZeroRun (groups : List Nat) : Nat × Nat :=
  ((List.range groups.length).map fun i => (i, zeroRun (groups.drop i))).foldl
    (fun best run => if best.2 < run.2 then run else best) (0, 0)

/-- Groups with colons between them. The longest run of two or more zeros is left out. -/
def renderIpv6 (groups : List Nat) : List Char :=
  let text (gs : List Nat) : List Char :=
    (String.intercalate ":" (gs.map fun g => String.ofList (Nat.toDigits 16 g))).toList
  let (start, length) := longestZeroRun groups
  if length < 2 then text groups
  else text (groups.take start) ++ [':', ':'] ++ text (groups.drop (start + length))

def isForbidden (c : Char) : Bool :=
  ['\x00', '\t', '\n', '\r', ' ', '#', '/', ':', '<', '>', '?', '@', '[', '\\', ']', '^', '|'].contains c

def isForbiddenInName (c : Char) : Bool :=
  isForbidden c || c < ' ' || c = '%' || c = '\x7f'

def readBracketed (cs : List Char) : Except Fault (List Char) :=
  match cs.getLast?, ipv6? (cs.drop 1).dropLast with
  | some ']', some groups => .ok ('[' :: renderIpv6 groups ++ [']'])
  | _, _ => .error .invalidIpv6

def readHost (cs : List Char) : Except Fault (List Char) :=
  if cs.head? = some '[' then readBracketed cs
  else
    let name := (Unicode.lower (String.ofList (Text.Utf8.decodeLossy (decode cs)))).toList
    if name.any isForbiddenInName then .error .invalidName
    else if name.isEmpty then .error .emptyHost
    else if endsInNumber name then
      match ipv4? name with
      | some n => .ok (renderIpv4 n)
      | none => .error .invalidIpv4
    else .ok name

def readOpaqueHost (cs : List Char) : Except Fault (List Char) :=
  if cs.head? = some '[' then readBracketed cs
  else if cs.any isForbidden then .error .invalidCharacter
  else .ok (encode .controls cs)

end Workbench.Url
