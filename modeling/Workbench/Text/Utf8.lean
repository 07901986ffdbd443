/-!
Reading UTF-8 where some of the bytes may be wrong. Each longest run of bytes that begins a character
and does not complete it counts as one error, and so does each byte that begins none.
-/

namespace Workbench.Text.Utf8

/--
What follows a first byte: how many more bytes there are, the bits that it contributes, and the range of
the second byte.
-/
structure Lead where
  more : Nat
  bits : Nat
  low : Nat
  high : Nat

def Lead.ofByte? (b : Nat) : Option Lead :=
  if 0xc2 ≤ b ∧ b ≤ 0xdf then some ⟨1, b - 0xc0, 0x80, 0xbf⟩
  else if b = 0xe0 then some ⟨2, 0, 0xa0, 0xbf⟩
  else if b = 0xed then some ⟨2, 0xd, 0x80, 0x9f⟩
  else if 0xe1 ≤ b ∧ b ≤ 0xef then some ⟨2, b - 0xe0, 0x80, 0xbf⟩
  else if b = 0xf0 then some ⟨3, 0, 0x90, 0xbf⟩
  else if b = 0xf4 then some ⟨3, 4, 0x80, 0x8f⟩
  else if 0xf1 ≤ b ∧ b ≤ 0xf3 then some ⟨3, b - 0xf0, 0x80, 0xbf⟩
  else none

def tail : (more bits low high : Nat) → List UInt8 → Option Char × List UInt8
  | 0, bits, _, _, bs => (some (Char.ofNat bits), bs)
  | _ + 1, _, _, _, [] => (none, [])
  | more + 1, bits, low, high, b :: bs =>
    if low ≤ b.toNat ∧ b.toNat ≤ high then tail more (bits * 64 + (b.toNat - 0x80)) 0x80 0xbf bs
    else (none, b :: bs)

theorem length_tail_le (more bits low high : Nat) (bs : List UInt8) :
    (tail more bits low high bs).2.length ≤ bs.length := by
  fun_induction tail more bits low high bs with
  | case1 bits low high bs => exact Nat.le_refl _
  | case2 => exact Nat.le_refl _
  | case3 bits low high more b bs hb ih => exact Nat.le_succ_of_le ih
  | case4 bits low high more b bs hb => exact Nat.le_refl _

def pieces : List UInt8 → List (Option Char)
  | [] => []
  | b :: bs =>
    if b.toNat < 0x80 then some (Char.ofNat b.toNat) :: pieces bs
    else match Lead.ofByte? b.toNat with
      | none => none :: pieces bs
      | some l =>
        (tail l.more l.bits l.low l.high bs).1 :: pieces (tail l.more l.bits l.low l.high bs).2
termination_by bs => bs.length
decreasing_by
  · simp
  · simp
  · have := length_tail_le l.more l.bits l.low l.high bs
    simp
    omega

def decode? (bs : List UInt8) : Option (List Char) :=
  (pieces bs).mapM id

def decodeLossy (bs : List UInt8) : List Char :=
  (pieces bs).map (·.getD '\ufffd')

def size (cs : List Char) : Nat :=
  cs.foldr (fun c n => c.utf8Size + n) 0

@[simp]
theorem size_nil : size [] = 0 := by
  rfl

@[simp]
theorem size_cons (c : Char) (cs : List Char) : size (c :: cs) = c.utf8Size + size cs := by
  rfl

@[simp]
theorem size_append (a b : List Char) : size (a ++ b) = size a + size b := by
  induction a with
  | nil => simp
  | cons c a ih =>
    rw [List.cons_append]
    simp only [size_cons, ih]
    omega

theorem utf8ByteSize_ofList (cs : List Char) : (String.ofList cs).utf8ByteSize = size cs := by
  induction cs with
  | nil => rfl
  | cons c cs ih =>
    rw [String.ofList_cons]
    rw [String.utf8ByteSize_append]
    rw [String.utf8ByteSize_singleton]
    rw [ih]
    rfl

end Workbench.Text.Utf8
