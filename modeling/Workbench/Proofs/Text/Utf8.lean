import Workbench.Proofs.Text.Split
import Workbench.Proofs.Unicode.Scalar
import Workbench.Text.Utf8

/-!
Line feeds in bytes and in their text. A byte of ASCII is never a part of a longer sequence, and no longer
sequence stands for a line feed. So bytes are cut into the same rows before and after they are read, wrong
ones among them too.
-/

namespace Workbench.Text.Utf8

variable {bs : List UInt8} {b : UInt8} {c : Char} {more bits low high : Nat}

theorem Lead.low_le {l : Lead} {n : Nat} (h : Lead.ofByte? n = some l) : 0x80 ≤ l.low := by
  unfold Lead.ofByte? at h
  grind

theorem Lead.feed_lt {l : Lead} {n : Nat} (h : Lead.ofByte? n = some l)
    : 0 < l.more ∧ 0x0a < l.bits * 64 + (l.low - 0x80) := by
  unfold Lead.ofByte? at h
  grind

theorem tail_append (hb : b.toNat < 0x80) (hlow : 0x80 ≤ low) (bs cs : List UInt8)
    : tail more bits low high (bs ++ b :: cs)
        = ((tail more bits low high bs).1, (tail more bits low high bs).2 ++ b :: cs) := by
  fun_induction tail more bits low high bs with
  | case1 => simp [tail]
  | case2 =>
    rw [List.nil_append]
    rw [tail]
    rw [if_neg (by omega)]
  | case3 more bits low high d bs hd ih =>
    rw [List.cons_append]
    rw [tail]
    rw [if_pos hd]
    exact ih (by decide)
  | case4 more bits low high d bs hd =>
    rw [List.cons_append]
    rw [tail]
    rw [if_neg hd]

theorem pieces_append (hb : b.toNat < 0x80) (bs cs : List UInt8)
    : pieces (bs ++ b :: cs) = pieces bs ++ some (Char.ofNat b.toNat) :: pieces cs := by
  -- A byte of ASCII is read on its own, whatever stands before it.
  fun_induction pieces bs with
  | case1 =>
    rw [List.nil_append]
    rw [pieces]
    rw [if_pos hb]
    rfl
  | case2 d bs hd ih =>
    rw [List.cons_append]
    rw [pieces]
    rw [if_pos hd]
    rw [ih]
    rfl
  | case3 d bs hd hlead ih =>
    rw [List.cons_append]
    rw [pieces]
    rw [if_neg hd]
    rw [hlead]
    dsimp only
    rw [ih]
    rfl
  | case4 d bs hd l hlead ih =>
    rw [List.cons_append]
    rw [pieces]
    rw [if_neg hd]
    rw [hlead]
    dsimp only
    rw [tail_append hb (Lead.low_le hlead)]
    dsimp only
    rw [ih]
    rfl

theorem le_of_tail (h : (tail more bits low high bs).1 = some c)
    : ∃ n, bits ≤ n ∧ c = Char.ofNat n := by
  fun_induction tail more bits low high bs with
  | case1 => exact ⟨_, Nat.le_refl _, (Option.some.inj h).symm⟩
  | case2 => contradiction
  | case3 more bits low high d bs hd ih =>
    obtain ⟨n, hn, hc⟩ := ih h
    exact ⟨n, by omega, hc⟩
  | case4 => contradiction

theorem le_of_tail_succ (h : (tail (more + 1) bits low high bs).1 = some c)
    : ∃ n, bits * 64 + (low - 0x80) ≤ n ∧ c = Char.ofNat n := by
  cases bs with
  | nil => contradiction
  | cons d bs =>
    rw [tail] at h
    split at h
    · obtain ⟨n, hn, hc⟩ := le_of_tail h
      exact ⟨n, by omega, hc⟩
    · contradiction

theorem Lead.tail_ne_feed {l : Lead} {n : Nat} (h : Lead.ofByte? n = some l) (bs : List UInt8)
    : (tail l.more l.bits l.low l.high bs).1 ≠ some '\n' := by
  intro hfeed
  obtain ⟨hmore, hlt⟩ := Lead.feed_lt h
  rw [← Nat.succ_pred_eq_of_pos hmore] at hfeed
  obtain ⟨m, hm, hc⟩ := le_of_tail_succ hfeed
  have hne : m ≠ '\n'.toNat := Nat.ne_of_gt (Nat.lt_of_lt_of_le hlt hm)
  exact Unicode.ofNat_ne (by decide) hne hc.symm

theorem tail_isSuffix (more bits low high : Nat) (bs : List UInt8)
    : (tail more bits low high bs).2 <:+ bs := by
  fun_induction tail more bits low high bs with
  | case1 => exact List.suffix_rfl
  | case2 => exact List.suffix_rfl
  | case3 more bits low high d bs hd ih => exact ih.trans (List.suffix_cons d bs)
  | case4 => exact List.suffix_rfl

theorem feed_not_mem_decodeLossy (h : 0x0a ∉ bs) : '\n' ∉ decodeLossy bs := by
  have hpieces : some '\n' ∉ pieces bs := by
    fun_induction pieces bs with
    | case1 => exact List.not_mem_nil
    | case2 d bs hd ih =>
      rw [List.mem_cons, not_or] at h ⊢
      have hne : d.toNat ≠ 0x0a := fun heq => h.1 (UInt8.toNat_inj.1 heq).symm
      exact ⟨fun heq => Unicode.ofNat_ne (by decide) hne (Option.some.inj heq).symm, ih h.2⟩
    | case3 d bs hd hlead ih =>
      rw [List.mem_cons, not_or] at h ⊢
      exact ⟨by decide, ih h.2⟩
    | case4 d bs hd l hlead ih =>
      rw [List.mem_cons, not_or] at h ⊢
      have hrest : 0x0a ∉ (tail l.more l.bits l.low l.high bs).2 :=
        fun hmem => h.2 ((tail_isSuffix _ _ _ _ bs).subset hmem)
      exact ⟨Ne.symm (Lead.tail_ne_feed hlead bs), ih hrest⟩
  intro hmem
  obtain ⟨piece, hpiece, hfeed⟩ := List.mem_map.1 hmem
  cases piece with
  | none => exact absurd hfeed (by decide)
  | some c =>
    subst hfeed
    exact hpieces hpiece

@[simp]
theorem decodeLossy_nil : decodeLossy [] = [] := by
  simp [decodeLossy, pieces]

theorem decodeLossy_ascii (h : ∀ b ∈ bs, b.toNat < 0x80)
    : decodeLossy bs = bs.map fun b => Char.ofNat b.toNat := by
  unfold decodeLossy
  induction bs with
  | nil => simp [pieces]
  | cons b bs ih =>
    rw [List.forall_mem_cons] at h
    rw [pieces]
    rw [if_pos h.1]
    rw [List.map_cons, List.map_cons]
    rw [ih h.2]
    rfl

theorem decodeLossy_append_feed (bs cs : List UInt8)
    : decodeLossy (bs ++ 0x0a :: cs) = decodeLossy bs ++ '\n' :: decodeLossy cs := by
  unfold decodeLossy
  rw [pieces_append (by decide)]
  rw [List.map_append]
  rfl

theorem splitAt_decodeLossy (bs : List UInt8)
    : splitAt '\n' (decodeLossy bs) = (splitAt 0x0a bs).map decodeLossy := by
  generalize hparts : splitAt 0x0a bs = parts
  induction parts generalizing bs with
  | nil => exact absurd hparts (splitAt_ne_nil 0x0a bs)
  | cons u rest ih =>
    obtain ⟨hu, ⟨rfl, rfl⟩ | ⟨bs', rfl, hrest⟩⟩ := splitAt_eq_cons hparts
    · exact splitAt_of_not_mem (feed_not_mem_decodeLossy hu)
    · rw [decodeLossy_append_feed]
      rw [splitAt_append_sep (feed_not_mem_decodeLossy hu)]
      rw [ih bs' hrest]
      rfl

end Workbench.Text.Utf8
