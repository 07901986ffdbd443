import Workbench.Json.Fault
import Workbench.Text.Hex

/-!
Reading the words and the strings of JSON. A reader takes the text from where it stands and answers what is
left of it. An escaped code point beyond sixteen bits is a pair of surrogates, neither of which may stand
alone.
-/

namespace Workbench.Json

open Text (hexValue?)

abbrev Reading (α : Type) := Except ReadError (α × List Char)

def isBlank (c : Char) : Bool :=
  c = ' ' || c = '\n' || c = '\t' || c = '\r'

def skipBlanks (cs : List Char) : List Char :=
  cs.dropWhile isBlank

theorem length_skipBlanks_le (cs : List Char) : (skipBlanks cs).length ≤ cs.length :=
  (List.dropWhile_suffix isBlank).length_le

def readWord : List Char → List Char → Except ReadError (List Char)
  | [], cs => .ok cs
  | _ :: _, [] => .error ⟨.endInValue, [], 0⟩
  | e :: es, c :: cs => if c = e then readWord es cs else .error ⟨.expectedIdent, c :: cs, 1⟩

theorem length_readWord {es cs rest : List Char} (h : readWord es cs = .ok rest) :
    rest.length ≤ cs.length := by
  fun_induction readWord es cs with
  | case1 => simp_all
  | case2 => simp at h
  | case3 e es cs ih => exact Nat.le_succ_of_le (ih h)
  | case4 => simp at h

def readHex (cs : List Char) : Reading Nat :=
  match cs with
  | a :: b :: c :: d :: rest =>
    match hexValue? a, hexValue? b, hexValue? c, hexValue? d with
    | some a, some b, some c, some d => .ok (((a * 16 + b) * 16 + c) * 16 + d, rest)
    | _, _, _, _ => .error ⟨.invalidEscape, cs, 4⟩
  | _ =>
    if 4 ≤ Text.Utf8.size cs then .error ⟨.invalidEscape, cs, 4⟩ else .error ⟨.endInString, [], 0⟩

theorem length_readHex {cs rest : List Char} {n : Nat} (h : readHex cs = .ok (n, rest)) :
    rest.length ≤ cs.length := by
  unfold readHex at h
  split at h
  next a b c d tail =>
    split at h
    next =>
      cases h
      simp only [List.length_cons]
      omega
    next => cases h
  next =>
    split at h
    next => cases h
    next => cases h

def shortEscape? (c : Char) : Option Char :=
  if c = '"' ∨ c = '\\' ∨ c = '/' then some c
  else if c = 'b' then some '\x08'
  else if c = 'f' then some '\x0c'
  else if c = 'n' then some '\n'
  else if c = 'r' then some '\r'
  else if c = 't' then some '\t'
  else none

def isHighSurrogate (n : Nat) : Bool :=
  0xd800 ≤ n && n ≤ 0xdbff

def isLowSurrogate (n : Nat) : Bool :=
  0xdc00 ≤ n && n ≤ 0xdfff

def readLowSurrogate (high : Nat) (cs : List Char) : Reading Char :=
  match cs with
  | [] | ['\\'] => .error ⟨.endInString, [], 0⟩
  | '\\' :: 'u' :: cs =>
    match readHex cs with
    | .error e => .error e
    | .ok (low, cs) =>
      if isLowSurrogate low then
        .ok (Char.ofNat ((high - 0xd800) * 0x400 + (low - 0xdc00) + 0x10000), cs)
      else .error ⟨.loneSurrogate, cs, 0⟩
  | '\\' :: cs => .error ⟨.unexpectedEndOfEscape, cs, 1⟩
  | cs => .error ⟨.unexpectedEndOfEscape, cs, 1⟩

def readEscape (cs : List Char) : Reading Char :=
  match cs with
  | [] => .error ⟨.endInString, [], 0⟩
  | 'u' :: cs =>
    match readHex cs with
    | .error e => .error e
    | .ok (n, cs) =>
      if isLowSurrogate n then .error ⟨.loneSurrogate, cs, 0⟩
      else if isHighSurrogate n then readLowSurrogate n cs
      else .ok (Char.ofNat n, cs)
  | c :: cs =>
    match shortEscape? c with
    | some e => .ok (e, cs)
    | none => .error ⟨.invalidEscape, c :: cs, 1⟩

theorem length_readLowSurrogate {n : Nat} {c : Char} {cs rest : List Char}
    (h : readLowSurrogate n cs = .ok (c, rest)) : rest.length ≤ cs.length := by
  unfold readLowSurrogate at h
  split at h
  case h_3 =>
    split at h
    · simp at h
    · next hx =>
      have := length_readHex hx
      split at h <;> simp at h
      grind
  all_goals simp at h

theorem length_readEscape {c : Char} {cs rest : List Char}
    (h : readEscape cs = .ok (c, rest)) : rest.length ≤ cs.length := by
  unfold readEscape at h
  split at h
  · simp at h
  · split at h
    · simp at h
    · next hx =>
      have := length_readHex hx
      split at h
      · simp at h
      · split at h
        · have := length_readLowSurrogate h
          grind
        · simp at h
          grind
  · split at h <;> simp at h
    grind

def readString (cs : List Char) : Reading (List Char) :=
  match cs with
  | [] => .error ⟨.endInString, [], 0⟩
  | '"' :: cs => .ok ([], cs)
  | '\\' :: cs =>
    match _h : readEscape cs with
    | .error e => .error e
    | .ok (c, rest) => (readString rest).map fun r => (c :: r.1, r.2)
  | c :: cs =>
    if c < ' ' then .error ⟨.controlCharacter, c :: cs, 1⟩
    else (readString cs).map fun r => (c :: r.1, r.2)
termination_by cs.length
decreasing_by
  · have := length_readEscape _h
    simp
    omega
  · simp

theorem length_readString {s cs rest : List Char} (h : readString cs = .ok (s, rest)) :
    rest.length < cs.length := by
  fun_induction readString cs generalizing s rest with
  | case1 => simp at h
  | case2 => simp_all
  | case3 => simp at h
  | case4 cs c r hr ih =>
    cases hs : readString r with
    | error e => simp [hs, Except.map] at h
    | ok v =>
      have h1 := length_readEscape hr
      have h2 := ih (show readString r = .ok (v.1, v.2) from hs)
      simp [hs, Except.map] at h
      grind
  | case5 => simp at h
  | case6 c cs _ _ _ ih =>
    cases hs : readString cs with
    | error e => simp [hs, Except.map] at h
    | ok v =>
      have h2 := ih (show readString cs = .ok (v.1, v.2) from hs)
      simp [hs, Except.map] at h
      grind

end Workbench.Json
