import Workbench.Json.Literal
import Workbench.Text.Decimal

/-!
Reading the numbers of JSON. A number is an integer while its digits fit sixty four bits, with the sign
bit among them if it is negative. Every other number is a floating point number: the digits that fit,
rounded, times a power of ten. The power is rounded too, so the last digit may differ from the nearest one.
-/

namespace Workbench.Json

def digitValue (c : Char) : Nat :=
  c.toNat - '0'.toNat

def skipDigits (cs : List Char) : List Char :=
  cs.dropWhile Char.isDigit

theorem length_skipDigits_le (cs : List Char) : (skipDigits cs).length ≤ cs.length :=
  (List.dropWhile_suffix Char.isDigit).length_le

def skipSign (cs : List Char) : List Char :=
  match cs with
  | '-' :: cs | '+' :: cs => cs
  | cs => cs

theorem length_skipSign_le (cs : List Char) : (skipSign cs).length ≤ cs.length := by
  unfold skipSign
  split <;> simp

def startsWithDigit (cs : List Char) : Bool :=
  cs.head?.any Char.isDigit

def significandLimit : Nat := 0x10000000000000000

def exponentLimit : Nat := 0x80000000

/-- Appends digits to a number as long as it stays a significand, and counts them. -/
def takeDigits (n count : Nat) : List Char → Nat × Nat × List Char
  | [] => (n, count, [])
  | c :: cs =>
    if c.isDigit ∧ n * 10 + digitValue c < significandLimit then
      takeDigits (n * 10 + digitValue c) (count + 1) cs
    else (n, count, c :: cs)

def powerOfTen (e : Nat) : Float :=
  Float.ofScientific 1 false e

def greatestExponent : Nat := 308

def divideByPower (x : Float) (e : Nat) : Float :=
  if e ≤ greatestExponent then x / powerOfTen e
  else if x == 0 then x
  else divideByPower (x / powerOfTen greatestExponent) (e - greatestExponent)
termination_by e
decreasing_by
  have : greatestExponent = 308 := rfl
  omega

def scaled? (n : Nat) (e : Int) : Option Float :=
  let x := (UInt64.ofNat n).toFloat
  if e < 0 then some (divideByPower x (-e).toNat)
  else if e ≤ greatestExponent then
    let y := x * powerOfTen e.toNat
    if y.isInf then none else some y
  else if x == 0 then some x
  else none

inductive Sign where
  | plus
  | minus
deriving DecidableEq, Repr

def Sign.float (s : Sign) (x : Float) : Found :=
  .float (Text.Decimal.ofFloat (if s = .minus then -x else x))

def Sign.integer (s : Sign) (n : Nat) : Found :=
  match s with
  | plus => .integer n
  | minus => if n = 0 ∨ 0x8000000000000000 < n then s.float (UInt64.ofNat n).toFloat else .integer (-n)

def finishFloat (s : Sign) (n : Nat) (e : Int) (rest : List Char) : Reading Found :=
  match scaled? n e with
  | some x => .ok (s.float x, rest)
  | none => .error ⟨.numberOutOfRange, rest, 0⟩

/-- The digits of an exponent after the first one, `none` if it is too great. -/
def takeExponent (n : Nat) : List Char → Option Nat × List Char
  | [] => (some n, [])
  | c :: cs =>
    if c.isDigit then
      if n * 10 + digitValue c < exponentLimit then takeExponent (n * 10 + digitValue c) cs
      else (none, cs)
    else (some n, c :: cs)

def readExponent (s : Sign) (n : Nat) (e : Int) (cs : List Char) : Reading Found :=
  let down := cs.head? == some '-'
  match skipSign cs with
  | [] => .error ⟨.endInValue, [], 0⟩
  | c :: cs =>
    if c.isDigit then
      match takeExponent (digitValue c) cs with
      | (some k, rest) => finishFloat s n (if down then e - k else e + k) rest
      | (none, rest) =>
        if n = 0 ∨ down then .ok (s.float 0, skipDigits rest)
        else .error ⟨.numberOutOfRange, rest, 0⟩
    else .error ⟨.invalidNumber, c :: cs, 1⟩

def readExponentOr (s : Sign) (n : Nat) (e : Int) (cs : List Char) : Reading Found :=
  match cs with
  | 'e' :: rest | 'E' :: rest => readExponent s n e rest
  | rest => finishFloat s n e rest

def readFraction (s : Sign) (n : Nat) (e : Int) (cs : List Char) : Reading Found :=
  let (n, count, rest) := takeDigits n 0 cs
  if count = 0 ∧ ¬ startsWithDigit rest then
    .error (if rest.isEmpty then ⟨.endInValue, [], 0⟩ else ⟨.invalidNumber, rest, 1⟩)
  else readExponentOr s n (e - count) (skipDigits rest)

def readAfterInteger (s : Sign) (n : Nat) (cs : List Char) : Reading Found :=
  match cs with
  | '.' :: rest => readFraction s n 0 rest
  | 'e' :: rest | 'E' :: rest => readExponent s n 0 rest
  | rest => .ok (s.integer n, rest)

def readNumber (s : Sign) (cs : List Char) : Reading Found :=
  match cs with
  | [] => .error ⟨.endInValue, [], 0⟩
  | '0' :: rest =>
    if startsWithDigit rest then .error ⟨.invalidNumber, rest, 1⟩ else readAfterInteger s 0 rest
  | c :: cs =>
    if c.isDigit then
      let (n, _, rest) := takeDigits (digitValue c) 0 cs
      if startsWithDigit rest then
        let e := (rest.takeWhile Char.isDigit).length
        match skipDigits rest with
        | '.' :: rest => readFraction s n e rest
        | rest => readExponentOr s n e rest
      else readAfterInteger s n rest
    else .error ⟨.invalidNumber, c :: cs, 1⟩

end Workbench.Json
