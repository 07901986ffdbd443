import Workbench.Json.Number

/-!
Passing over values whose content does not matter. Their form is checked, but not whether their surrogates
are paired and their numbers in range, and they may be nested to any depth.
-/

namespace Workbench.Json

def skipEscape (cs : List Char) : Except ReadError (List Char) :=
  match cs with
  | [] => .error ⟨.endInString, [], 0⟩
  | 'u' :: cs => (readHex cs).map (·.2)
  | c :: cs => if (shortEscape? c).isSome then .ok cs else .error ⟨.invalidEscape, c :: cs, 1⟩

theorem length_skipEscape {cs rest : List Char} (h : skipEscape cs = .ok rest) :
    rest.length ≤ cs.length := by
  unfold skipEscape at h
  split at h
  · simp at h
  · next cs =>
    cases hx : readHex cs with
    | error e => simp [hx, Except.map] at h
    | ok r =>
      have := length_readHex (show readHex cs = .ok (r.1, r.2) from hx)
      simp [hx, Except.map] at h
      grind
  · split at h <;> simp at h
    grind

def skipString (cs : List Char) : Except ReadError (List Char) :=
  match cs with
  | [] => .error ⟨.endInString, [], 0⟩
  | '"' :: cs => .ok cs
  | '\\' :: cs =>
    match _h : skipEscape cs with
    | .error e => .error e
    | .ok rest => skipString rest
  | c :: cs => if c < ' ' then .error ⟨.controlCharacter, c :: cs, 0⟩ else skipString cs
termination_by cs.length
decreasing_by
  · have := length_skipEscape _h
    simp
    omega
  · simp

theorem length_skipString {cs rest : List Char} (h : skipString cs = .ok rest) :
    rest.length < cs.length := by
  fun_induction skipString cs with
  | case1 => simp at h
  | case2 => simp_all
  | case3 => simp at h
  | case4 cs r hr ih =>
    have h1 := length_skipEscape hr
    have h2 := ih h
    simp
    omega
  | case5 => simp at h
  | case6 c cs _ _ _ ih =>
    have := ih h
    simp
    omega

def skipExponentDigits (cs : List Char) : Except ReadError (List Char) :=
  if startsWithDigit cs then .ok (skipDigits cs) else .error ⟨.invalidNumber, cs, 1⟩

def skipExponent (cs : List Char) : Except ReadError (List Char) :=
  match cs with
  | 'e' :: cs | 'E' :: cs => skipExponentDigits (skipSign cs)
  | cs => .ok cs

def skipFraction (cs : List Char) : Except ReadError (List Char) :=
  match cs with
  | '.' :: cs =>
    if startsWithDigit cs then skipExponent (skipDigits cs) else .error ⟨.invalidNumber, cs, 1⟩
  | cs => skipExponent cs

def skipNumber (cs : List Char) : Except ReadError (List Char) :=
  match cs with
  | [] => .error ⟨.invalidNumber, [], 0⟩
  | '0' :: rest =>
    if startsWithDigit rest then .error ⟨.invalidNumber, rest, 1⟩ else skipFraction rest
  | c :: cs =>
    if c.isDigit then skipFraction (skipDigits cs) else .error ⟨.invalidNumber, c :: cs, 1⟩

theorem length_skipExponentDigits {cs rest : List Char} (h : skipExponentDigits cs = .ok rest) :
    rest.length ≤ cs.length := by
  unfold skipExponentDigits at h
  split at h
  · simp only [Except.ok.injEq] at h
    exact h ▸ length_skipDigits_le cs
  · simp at h

theorem length_skipExponent {cs rest : List Char} (h : skipExponent cs = .ok rest) :
    rest.length ≤ cs.length := by
  unfold skipExponent at h
  split at h
  · exact Nat.le_succ_of_le (Nat.le_trans (length_skipExponentDigits h) (length_skipSign_le _))
  · exact Nat.le_succ_of_le (Nat.le_trans (length_skipExponentDigits h) (length_skipSign_le _))
  · simp_all

theorem length_skipFraction {cs rest : List Char} (h : skipFraction cs = .ok rest) :
    rest.length ≤ cs.length := by
  unfold skipFraction at h
  split at h
  · next cs =>
    split at h
    · have h1 := length_skipExponent h
      have h2 := length_skipDigits_le cs
      simp
      omega
    · simp at h
  · exact length_skipExponent h

theorem length_skipNumber {cs rest : List Char} (h : skipNumber cs = .ok rest) :
    rest.length < cs.length := by
  unfold skipNumber at h
  split at h
  · simp at h
  · split at h
    · simp at h
    · have := length_skipFraction h
      simp
      omega
  · next cs _ =>
    split at h
    · have h1 := length_skipFraction h
      have h2 := length_skipDigits_le cs
      simp
      omega
    · simp at h

def skipScalar (cs : List Char) : Except ReadError (List Char) :=
  match cs with
  | [] => .error ⟨.endInValue, [], 0⟩
  | 'n' :: cs => readWord ['u', 'l', 'l'] cs
  | 't' :: cs => readWord ['r', 'u', 'e'] cs
  | 'f' :: cs => readWord ['a', 'l', 's', 'e'] cs
  | '"' :: cs => skipString cs
  | '-' :: cs => skipNumber cs
  | c :: cs => if c.isDigit then skipNumber (c :: cs) else .error ⟨.expectedValue, c :: cs, 1⟩

theorem length_skipScalar {cs rest : List Char} (h : skipScalar cs = .ok rest) :
    rest.length < cs.length := by
  unfold skipScalar at h
  split at h
  · simp at h
  · exact Nat.lt_succ_of_le (length_readWord h)
  · exact Nat.lt_succ_of_le (length_readWord h)
  · exact Nat.lt_succ_of_le (length_readWord h)
  · exact Nat.lt_succ_of_lt (length_skipString h)
  · exact Nat.lt_succ_of_lt (length_skipNumber h)
  · split at h
    · exact length_skipNumber h
    · simp at h

inductive Enclosure where
  | list
  | object
deriving DecidableEq, Repr

mutual

def skipValue (around : List Enclosure) (cs : List Char) : Except ReadError (List Char) :=
  match _h : skipBlanks cs with
  | [] => .error ⟨.endInValue, [], 0⟩
  | '[' :: rest =>
    match _h' : skipBlanks rest with
    | [] => .error ⟨.endInList, [], 0⟩
    | ']' :: rest => skipAfterValue around rest
    | rest => skipValue (.list :: around) rest
  | '\x7b' :: rest =>
    match _h' : skipBlanks rest with
    | [] => .error ⟨.endInObject, [], 0⟩
    | '\x7d' :: rest => skipAfterValue around rest
    | rest => skipMember around rest
  | rest =>
    match _h' : skipScalar rest with
    | .error e => .error e
    | .ok rest => skipAfterValue around rest
termination_by cs.length
decreasing_by all_goals grind [length_skipBlanks_le, → length_skipScalar, → length_skipString]

def skipMember (around : List Enclosure) (cs : List Char) : Except ReadError (List Char) :=
  match cs with
  | [] => .error ⟨.endInObject, [], 0⟩
  | '"' :: cs =>
    match _h : skipString cs with
    | .error e => .error e
    | .ok rest =>
      match _h' : skipBlanks rest with
      | [] => .error ⟨.endInObject, [], 0⟩
      | ':' :: rest => skipValue (.object :: around) rest
      | rest => .error ⟨.expectedColon, rest, 1⟩
  | cs => .error ⟨.keyMustBeString, cs, 1⟩
termination_by cs.length
decreasing_by all_goals grind [length_skipBlanks_le, → length_skipScalar, → length_skipString]

def skipAfterValue (around : List Enclosure) (cs : List Char) : Except ReadError (List Char) :=
  match around with
  | [] => .ok cs
  | .list :: around =>
    match _h : skipBlanks cs with
    | [] => .error ⟨.endInList, [], 0⟩
    | ',' :: rest => skipValue (.list :: around) rest
    | ']' :: rest => skipAfterValue around rest
    | rest => .error ⟨.expectedListCommaOrEnd, rest, 1⟩
  | .object :: around =>
    match _h : skipBlanks cs with
    | [] => .error ⟨.endInObject, [], 0⟩
    | ',' :: rest => skipMember around (skipBlanks rest)
    | '\x7d' :: rest => skipAfterValue around rest
    | rest => .error ⟨.expectedObjectCommaOrEnd, rest, 1⟩
termination_by cs.length
decreasing_by all_goals grind [length_skipBlanks_le, → length_skipScalar, → length_skipString]

end

theorem length_skip (n : Nat) : ∀ cs : List Char, cs.length ≤ n → ∀ around rest,
    (skipValue around cs = .ok rest → rest.length < cs.length) ∧
    (skipMember around cs = .ok rest → rest.length < cs.length) ∧
    (skipAfterValue around cs = .ok rest → rest.length ≤ cs.length) := by
  induction n with
  | zero =>
    intro cs hn around rest
    have : cs = [] := by simpa using hn
    subst this
    refine ⟨?_, ?_, ?_⟩ <;> intro h
    · simp [skipValue, skipBlanks] at h
    · simp [skipMember] at h
    · unfold skipAfterValue at h
      split at h <;> simp_all [skipBlanks]
  | succ n ih =>
    intro cs hn around rest
    refine ⟨?_, ?_, ?_⟩ <;> intro h
    · unfold skipValue at h
      grind [length_skipBlanks_le, → length_skipScalar]
    · unfold skipMember at h
      grind [length_skipBlanks_le, → length_skipString]
    · unfold skipAfterValue at h
      grind [length_skipBlanks_le]

theorem length_skipValue {around : List Enclosure} {cs rest : List Char}
    (h : skipValue around cs = .ok rest) : rest.length < cs.length :=
  (length_skip cs.length cs (Nat.le_refl _) around rest).1 h

end Workbench.Json
