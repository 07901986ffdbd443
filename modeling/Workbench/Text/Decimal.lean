/-!
Floating point numbers in decimal notation: the fewest digits that read back as the same number, and of
those the nearest to it. A positive finite number is given as a significand times a power of two.
-/

namespace Workbench.Text.Decimal

structure Ratio where
  num : Nat
  den : Nat

namespace Ratio

def scale (r : Ratio) (base : Nat) (e : Int) : Ratio :=
  if 0 ≤ e then ⟨r.num * base.pow e.toNat, r.den⟩ else ⟨r.num, r.den * base.pow (-e).toNat⟩

def le (r s : Ratio) : Bool :=
  r.num * s.den ≤ s.num * r.den

def distance (r s : Ratio) : Ratio :=
  let a := r.num * s.den
  let b := s.num * r.den
  ⟨max a b - min a b, r.den * s.den⟩

def decimalExponent (r : Ratio) : Int :=
  let d : Int := (Nat.toDigits 10 r.num).length - (Nat.toDigits 10 r.den).length
  if le (scale ⟨1, 1⟩ 10 d) r then d else d - 1

end Ratio

/-- The numbers that are read as a floating point number. The ends belong to them if the significand is
even. -/
structure Basin where
  low : Ratio
  high : Ratio
  closed : Bool

def Basin.contains (b : Basin) (r : Ratio) : Bool :=
  if b.closed then b.low.le r && r.le b.high else !(r.le b.low) && !(b.high.le r)

/-- The basin of a number. Below a power of two, the numbers lie twice as close. -/
def basin (m : Nat) (q : Int) : Basin where
  low :=
    if m = 0x10000000000000 ∧ q ≠ -1074 then Ratio.scale ⟨4 * m - 1, 4⟩ 2 q else Ratio.scale ⟨2 * m - 1, 2⟩ 2 q
  high := Ratio.scale ⟨2 * m + 1, 2⟩ 2 q
  closed := m % 2 = 0

def neighbour? (m : Nat) (q : Int) (digits : Nat) : Option (Nat × Int) :=
  let v := Ratio.scale ⟨m, 1⟩ 2 q
  let e := v.decimalExponent - digits + 1
  let scaled := v.scale 10 (-e)
  let below := scaled.num / scaled.den
  let value (n : Nat) : Ratio := Ratio.scale ⟨n, 1⟩ 10 e
  let b := basin m q
  match b.contains (value below), b.contains (value (below + 1)) with
  | false, false => none
  | true, false => some (below, e)
  | false, true => some (below + 1, e)
  | true, true =>
    let dBelow := v.distance (value below)
    let dAbove := v.distance (value (below + 1))
    if dBelow.le dAbove && (!dAbove.le dBelow || below % 2 = 0) then some (below, e)
    else some (below + 1, e)

def shortest (m : Nat) (q : Int) : Nat × Int :=
  ((List.range 17).findSome? fun n => neighbour? m q (n + 1)).getD (m, q)

def normalize (n : Nat) (e : Int) : Nat × Int :=
  if n ≠ 0 ∧ n % 10 = 0 then normalize (n / 10) (e + 1) else (n, e)

/--
A decimal as text. It is positional with at least one digit on either side of the point if the first digit
counts from a hundred thousandth to a quadrillion; otherwise it has an exponent with a sign and two digits.
-/
def render (d : Nat × Int) : List Char :=
  let digits := Nat.toDigits 10 d.1
  let first : Int := digits.length - 1 + d.2
  if -5 ≤ first ∧ first < 0 then
    ['0', '.'] ++ List.replicate ((-first).toNat - 1) '0' ++ digits
  else if 0 ≤ first ∧ first ≤ 15 then
    let whole := first.toNat + 1
    let padded := digits ++ List.replicate (whole - digits.length) '0'
    let fraction := padded.drop whole
    padded.take whole ++ '.' :: (if fraction.isEmpty then ['0'] else fraction)
  else
    let exponent := Nat.toDigits 10 first.natAbs
    digits.take 1 ++ (if digits.length = 1 then [] else '.' :: digits.drop 1) ++
      ['e', if first < 0 then '-' else '+'] ++ List.replicate (2 - exponent.length) '0' ++ exponent

def ofFloat (x : Float) : List Char :=
  let bits := x.toBits.toNat
  let sign := if bits < 0x8000000000000000 then [] else ['-']
  let exponent : Nat := bits / 0x10000000000000 % 0x800
  let fraction : Nat := bits % 0x10000000000000
  sign ++
    if exponent = 0 ∧ fraction = 0 then ['0', '.', '0']
    else
      let (m, q) : Nat × Int :=
        if exponent = 0 then (fraction, -1074) else (0x10000000000000 + fraction, exponent - 1075)
      let (n, e) := shortest m q
      render (normalize n e)

end Workbench.Text.Decimal
