import Workbench.Json.Skip

/-!
Reading values of a known form: strings, lists of strings and records with a single field. A record is an
object that has the field once, whatever else it has, or an array of the field alone. An error that the
form is not met counts as noticed at the end of the array or object that it concerns.
-/

namespace Workbench.Json

def wrongKind (expected : String) (cs : List Char) : ReadError :=
  let word (letters : String) (found : Found) (cs : List Char) : ReadError :=
    match readWord letters.toList cs with
    | .error e => e
    | .ok rest => ⟨.invalidType found expected, rest, 0⟩
  let number (s : Sign) (cs : List Char) : ReadError :=
    match readNumber s cs with
    | .error e => e
    | .ok (found, rest) => ⟨.invalidType found expected, rest, 0⟩
  match cs with
  | [] => ⟨.endInValue, [], 0⟩
  | 'n' :: cs => word "ull" .null cs
  | 't' :: cs => word "rue" (.bool true) cs
  | 'f' :: cs => word "alse" (.bool false) cs
  | '-' :: cs => number .minus cs
  | '"' :: cs =>
    match readString cs with
    | .error e => e
    | .ok (s, rest) => ⟨.invalidType (.string s) expected, rest, 0⟩
  | '[' :: _ => ⟨.invalidType .array expected, cs, 0⟩
  | '\x7b' :: _ => ⟨.invalidType .object expected, cs, 0⟩
  | c :: _ => if c.isDigit then number .plus cs else ⟨.expectedValue, cs, 1⟩

def readText (cs : List Char) : Reading (List Char) :=
  match skipBlanks cs with
  | '"' :: rest => readString rest
  | rest => .error (wrongKind "a string" rest)

theorem length_readText {s cs rest : List Char} (h : readText cs = .ok (s, rest)) :
    rest.length < cs.length := by
  unfold readText at h
  have := length_skipBlanks_le cs
  split at h
  · have := length_readString h
    grind
  · simp at h

def readListEnd (cs : List Char) : Option Fault × List Char :=
  match skipBlanks cs with
  | [] => (some .endInList, [])
  | ']' :: rest => (none, rest)
  | ',' :: rest =>
    match skipBlanks rest with
    | ']' :: rest => (some .trailingComma, ']' :: rest)
    | rest => (some .trailingCharacters, rest)
  | rest => (some .trailingCharacters, rest)

def readObjectEnd (cs : List Char) : Option Fault × List Char :=
  match skipBlanks cs with
  | [] => (some .endInObject, [])
  | '\x7d' :: rest => (none, rest)
  | ',' :: rest => (some .trailingComma, ',' :: rest)
  | rest => (some .trailingCharacters, rest)

/-- A value that has been read up to its end. A fault in it comes before one at its end. -/
def finish {α : Type} (value : Except Fault α) (ending : Option Fault × List Char) : Reading α :=
  match value, ending with
  | .error fault, (_, rest) => .error ⟨fault, rest, 0⟩
  | .ok _, (some fault, rest) => .error ⟨fault, rest, 1⟩
  | .ok a, (none, rest) => .ok (a, rest)

def nextItem? (first : Bool) (cs : List Char) : Except ReadError (Option (List Char)) :=
  match skipBlanks cs with
  | [] => .error ⟨.endInList, [], 0⟩
  | ']' :: _ => .ok none
  | c :: rest =>
    if first then .ok (some (c :: rest))
    else if c = ',' then
      match skipBlanks rest with
      | [] => .error ⟨.endInValue, [], 0⟩
      | ']' :: rest => .error ⟨.trailingComma, ']' :: rest, 1⟩
      | rest => .ok (some rest)
    else .error ⟨.expectedListCommaOrEnd, c :: rest, 1⟩

theorem length_nextItem? {first : Bool} {cs rest : List Char}
    (h : nextItem? first cs = .ok (some rest)) : rest.length ≤ cs.length := by
  unfold nextItem? at h
  have := length_skipBlanks_le cs
  grind [length_skipBlanks_le]

def readItems (first : Bool) (cs : List Char) : Reading (List (List Char)) :=
  match _h : nextItem? first cs with
  | .error e => .error e
  | .ok none => .ok ([], cs)
  | .ok (some item) =>
    match _h' : readText item with
    | .error e => .error e
    | .ok (s, rest) => (readItems false rest).map fun r => (s :: r.1, r.2)
termination_by cs.length
decreasing_by grind [→ length_nextItem?, → length_readText]

def readTexts (cs : List Char) : Reading (List (List Char)) :=
  match skipBlanks cs with
  | '[' :: rest =>
    match readItems true rest with
    | .error e => .error e
    | .ok (items, rest) => finish (.ok items) (readListEnd rest)
  | rest => .error (wrongKind "a sequence" rest)

structure RecordForm where
  name : String
  field : String
deriving DecidableEq, Repr

namespace RecordForm

def expected (r : RecordForm) : String :=
  s!"struct {r.name}"

end RecordForm

def nextKey? (first : Bool) (cs : List Char) : Except ReadError (Option (List Char)) :=
  match skipBlanks cs with
  | [] => .error ⟨.endInObject, [], 0⟩
  | '\x7d' :: _ => .ok none
  | c :: rest =>
    if first then
      if c = '"' then .ok (some rest) else .error ⟨.keyMustBeString, c :: rest, 1⟩
    else if c = ',' then
      match skipBlanks rest with
      | [] => .error ⟨.endInValue, [], 0⟩
      | '"' :: rest => .ok (some rest)
      | '\x7d' :: rest => .error ⟨.trailingComma, '\x7d' :: rest, 1⟩
      | rest => .error ⟨.keyMustBeString, rest, 1⟩
    else .error ⟨.expectedObjectCommaOrEnd, c :: rest, 1⟩

theorem length_nextKey? {first : Bool} {cs rest : List Char}
    (h : nextKey? first cs = .ok (some rest)) : rest.length < cs.length := by
  unfold nextKey? at h
  have := length_skipBlanks_le cs
  grind [length_skipBlanks_le]

def readColon (cs : List Char) : Except ReadError (List Char) :=
  match skipBlanks cs with
  | [] => .error ⟨.endInObject, [], 0⟩
  | ':' :: rest => .ok rest
  | rest => .error ⟨.expectedColon, rest, 1⟩

theorem length_readColon {cs rest : List Char} (h : readColon cs = .ok rest) :
    rest.length ≤ cs.length := by
  unfold readColon at h
  have := length_skipBlanks_le cs
  grind

def readMembers (r : RecordForm) (found? : Option (List Char)) (first : Bool) (cs : List Char) :
    Reading (Except Fault (List Char)) :=
  match _hk : nextKey? first cs with
  | .error e => .error e
  | .ok none => .ok (found?.elim (.error (.missingField r.field)) .ok, cs)
  | .ok (some key) =>
    match _hn : readString key with
    | .error e => .error e
    | .ok (name, rest) =>
      if name = r.field.toList ∧ found?.isSome then .ok (.error (.duplicateField r.field), rest)
      else match _hc : readColon rest with
        | .error e => .error e
        | .ok rest =>
          if name = r.field.toList then
            match _ht : readText rest with
            | .error e => .error e
            | .ok (value, rest) => readMembers r (some value) false rest
          else match _hs : skipValue [] rest with
            | .error e => .error e
            | .ok rest => readMembers r found? false rest
termination_by cs.length
decreasing_by
  all_goals grind [→ length_nextKey?, → length_readString, → length_readColon, → length_readText,
    → length_skipValue]

def readOnlyItem (r : RecordForm) (cs : List Char) : Reading (Except Fault (List Char)) :=
  match nextItem? true cs with
  | .error e => .error e
  | .ok none => .ok (.error (.invalidLength 0 (r.expected ++ " with 1 element")), cs)
  | .ok (some item) => (readText item).map fun v => (.ok v.1, v.2)

def readRecord (r : RecordForm) (cs : List Char) : Reading (List Char) :=
  match skipBlanks cs with
  | '[' :: rest =>
    match readOnlyItem r rest with
    | .error e => .error e
    | .ok (value, rest) => finish value (readListEnd rest)
  | '\x7b' :: rest =>
    match readMembers r none true rest with
    | .error e => .error e
    | .ok (value, rest) => finish value (readObjectEnd rest)
  | rest => .error (wrongKind r.expected rest)

def readAll {α : Type} (read : List Char → Reading α) (text : List Char) : Except ReadError α :=
  match read text with
  | .error e => .error e
  | .ok (a, rest) =>
    match skipBlanks rest with
    | [] => .ok a
    | rest => .error ⟨.trailingCharacters, rest, 1⟩

end Workbench.Json
