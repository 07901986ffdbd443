/-!
Characters and their numbers.
-/

namespace Workbench.Unicode

variable {n : Nat}

theorem toNat_ofNat_of_valid (h : n.isValidChar) : (Char.ofNat n).toNat = n := by
  rw [Char.ofNat, dif_pos h]
  rfl

theorem ofNat_ne {c : Char} (hc : c ≠ '\x00') (h : n ≠ c.toNat) : Char.ofNat n ≠ c := by
  rintro rfl
  by_cases hvalid : n.isValidChar
  · exact h (toNat_ofNat_of_valid hvalid).symm
  · rw [Char.ofNat, dif_neg hvalid] at hc
    contradiction

theorem toNat_toLower (c : Char)
    : c.toLower.toNat = if 0x41 ≤ c.toNat ∧ c.toNat ≤ 0x5a then c.toNat + 0x20 else c.toNat := by
  have hrange : (c.val ≥ 'A'.val ∧ c.val ≤ 'Z'.val) ↔ 0x41 ≤ c.toNat ∧ c.toNat ≤ 0x5a := by
    rfl
  have hshift : ('a'.val - 'A'.val).toNat = 0x20 := by
    decide
  unfold Char.toLower
  by_cases h : c.val ≥ 'A'.val ∧ c.val ≤ 'Z'.val
  · rw [dif_pos h]
    rw [hrange] at h
    rw [if_pos h]
    change (c.val + ('a'.val - 'A'.val)).toNat = _
    rw [UInt32.toNat_add]
    rw [Char.toNat_val, hshift]
    exact Nat.mod_eq_of_lt (by omega)
  · rw [dif_neg h]
    rw [hrange] at h
    rw [if_neg h]

end Workbench.Unicode
