import Workbench.Log.Event
import Workbench.Text.Lines
import Workbench.Text.Trim
import Workbench.Unicode.Alphanumeric

/-!
Filters for log events. A filter is a list of directives between commas, such as `other=trace,error`. A
directive may name a target, to which belong all targets that begin with it, and a field in brackets and
braces. Of the directives that an event belongs to, the most specific one decides, and of two that are
equally specific the later one.
-/

namespace Workbench

abbrev LogThreshold := Option LogLevel

namespace LogThreshold

def passes (t : LogThreshold) (level : LogLevel) : Bool :=
  t.any (level.rank ≤ ·.rank)

def number? (s : String) : Option Nat :=
  match s.toList with
  | '+' :: c :: cs => digits? (c :: cs)
  | c :: cs => digits? (c :: cs)
  | [] => none
where
  digits? (cs : List Char) : Option Nat :=
    if cs.all Char.isDigit then some (cs.foldl (fun n c => 10 * n + (c.toNat - '0'.toNat)) 0)
    else none

def parse? (s : String) : Option LogThreshold :=
  match number? s with
  | some 0 => some none
  | some n => (LogLevel.all.find? (·.rank = n)).map some
  | none =>
    let s := Unicode.lowerAscii s
    if s = "off" then some none else (LogLevel.all.find? (·.name = s)).map some

end LogThreshold

structure LogFieldPattern where
  name : String
  value? : Option String
deriving DecidableEq, Repr

structure LogDirective where
  threshold : LogThreshold := some .trace
  target? : Option String := none
  span? : Option String := none
  field? : Option LogFieldPattern := none
deriving DecidableEq, Repr

namespace LogDirective

def withThreshold? (d : LogDirective) : List Char → Option LogDirective
  | [] => some d
  | ['='] => some d
  | '=' :: cs => (LogThreshold.parse? (String.ofList cs)).map fun threshold => { d with threshold }
  | _ => none

def readField? (cs : List Char) : Option LogFieldPattern :=
  match cs, Text.splitAt '=' cs with
  | [], _ | _, [] => none
  | _, [name] => some ⟨String.ofList name, none⟩
  | _, name :: value :: _ => some ⟨String.ofList name, some (String.ofList value)⟩

def withSpan? (d : LogDirective) (cs : List Char) : Option LogDirective :=
  let inner (c : Char) : Bool := c ≠ ']' && c ≠ '\x7b'
  let span := String.ofList (cs.takeWhile inner)
  match cs.dropWhile inner with
  | ']' :: rest => { d with span? := some span }.withThreshold? rest
  | '\x7b' :: rest =>
    match readField? (rest.takeWhile (· ≠ '\x7d')), rest.dropWhile (· ≠ '\x7d') with
    | some field, '\x7d' :: ']' :: rest =>
      { d with span? := if span.isEmpty then none else some span, field? := some field }.withThreshold? rest
    | _, _ => none
  | _ => none

def beginsTarget (c : Char) : Bool :=
  c = '-' || c = ':' || c = '_' || Unicode.isAlphanumeric c

/-- Reads a directive. A single word is a threshold if it can be one, and else a target. -/
def parse? (s : List Char) : Option LogDirective :=
  match Text.trim s with
  | [] => none
  | '[' :: cs => withSpan? {} cs
  | c :: cs =>
    if beginsTarget c then
      let inner (c : Char) : Bool := c ≠ '=' && c ≠ '['
      let word := String.ofList ((c :: cs).takeWhile inner)
      match (c :: cs).dropWhile inner with
      | [] => some <| match LogThreshold.parse? word with
        | some threshold => { threshold }
        | none => { target? := some word }
      | '[' :: rest => withSpan? { target? := some word } rest
      | rest => withThreshold? { target? := some word } rest
    else none

/-- The directive can decide about events outside of every span by their names alone. -/
def isPlain (d : LogDirective) : Bool :=
  d.span?.isNone && d.field?.all (·.value?.isNone)

def concerns (d : LogDirective) (e : LogEvent) : Bool :=
  d.target?.all (fun t => t.toList.isPrefixOf e.target.toList) &&
    d.field?.all fun f => ("message" :: e.fields.map (·.1)).contains f.name

def specificity (d : LogDirective) : Nat × Nat :=
  (d.target?.elim 0 (·.utf8ByteSize + 1), d.field?.elim 0 fun _ => 1)

def yieldsTo (d e : LogDirective) : Bool :=
  d.specificity.1 < e.specificity.1 ||
    d.specificity.1 = e.specificity.1 &&
      (d.specificity.2 < e.specificity.2 ||
        d.specificity.2 = e.specificity.2 && (d.field?.map (·.name)).getD "" ≤ (e.field?.map (·.name)).getD "")

end LogDirective

abbrev LogFilter := List LogDirective

namespace LogFilter

def ofLevel (level : LogLevel) : LogFilter :=
  [{ threshold := some level }]

/-- Reads a filter. Without a directive it lets errors through. -/
def parse? (s : String) : Option LogFilter :=
  let parts := (Text.splitAt ',' s.toList).filter (! ·.isEmpty)
  (parts.mapM LogDirective.parse?).map fun directives =>
    if directives.isEmpty then ofLevel .error else directives

def deciding? (f : LogFilter) (e : LogEvent) : Option LogDirective :=
  (f.filter fun d => d.isPlain && d.concerns e).foldl
    (fun best d => if best.all (·.yieldsTo d) then some d else best) none

def allows (f : LogFilter) (e : LogEvent) : Bool :=
  (f.deciding? e).any (·.threshold.passes e.level)

end LogFilter

end Workbench
