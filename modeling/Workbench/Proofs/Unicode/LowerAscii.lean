import Workbench.Proofs.Unicode.LowerPrefix
import Workbench.Proofs.Unicode.Scalar

/-!
Lower case in ASCII. Of the characters beyond ASCII, only the Kelvin sign has a small letter in ASCII, a `k`. So a text
of ASCII without this letter is told from all others by their lower case in ASCII just as by that in every script.
-/

namespace Workbench.Unicode

variable {s t : String} {c d : Char} {before cs ds : List Char}

theorem capitalRuns_beyond
    : ∀ r ∈ capitalRuns, r.first = 0x41 ∧ r.last = 0x5a ∧ r.target = 0x61
        ∨ r.first = 0x212a ∧ r.last = 0x212a ∧ r.target = 0x6b
        ∨ 0x80 ≤ r.first ∧ 0x80 ≤ r.target
          ∧ (r.target + (r.last - r.first) < 0xd800
            ∨ 0xdfff < r.target ∧ r.target + (r.last - r.first) < 0x110000) := by
  -- The runs beyond ASCII, but for the Kelvin sign, have their small letters beyond ASCII.
  decide +kernel

theorem lowerChar_cases (c : Char)
    : lowerChar c = c.toLower ∨ (c = '\u212a' ∧ lowerChar c = 'k')
        ∨ (0x80 ≤ c.toNat ∧ 0x80 ≤ (lowerChar c).toNat) := by
  unfold lowerChar
  split
  next r hfound =>
    have hin := List.find?_some hfound
    simp only [Bool.and_eq_true, decide_eq_true_eq] at hin
    obtain ⟨⟨hfirst, hlast⟩, -⟩ := hin
    rcases capitalRuns_beyond r (List.mem_of_find?_eq_some hfound) with hrun | hrun | hrun
    · left
      rw [hrun.1, hrun.2.2]
      rw [← Char.toNat_inj]
      rw [toNat_toLower, if_pos (by omega)]
      rw [toNat_ofNat_of_valid (.inl (by omega))]
      omega
    · right; left
      have hc : c = '\u212a' := by
        rw [← Char.toNat_inj]
        change c.toNat = 0x212a
        omega
      rw [hrun.1, hrun.2.2, hc]
      exact ⟨rfl, rfl⟩
    · right; right
      refine ⟨by omega, ?_⟩
      rw [toNat_ofNat_of_valid (by unfold Nat.isValidChar; omega)]
      omega
  next hnone =>
    left
    have hnot := List.find?_eq_none.1 hnone ⟨0x41, 0x5a, 1, 0x61⟩ List.mem_cons_self
    simp only [Bool.and_eq_true, decide_eq_true_eq] at hnot
    rw [← Char.toNat_inj]
    rw [toNat_toLower]
    rw [if_neg (by omega)]

theorem lowerChar_eq_iff (hd : d.toNat < 0x80) (hk : d ≠ 'k') : lowerChar c = d ↔ c.toLower = d := by
  rcases lowerChar_cases c with hlower | ⟨rfl, hlower⟩ | ⟨hc, hlower⟩
  · rw [hlower]
  · rw [hlower]
    refine iff_of_false (Ne.symm hk) ?_
    rintro rfl
    exact absurd hd (by decide)
  · refine iff_of_false ?_ ?_
    · rintro rfl
      omega
    · rintro rfl
      rw [toNat_toLower] at hd
      split at hd
      · omega
      · omega

def IsPlain (ds : List Char) : Prop :=
  ∀ d ∈ ds, d.toNat < 0x80 ∧ d ≠ 'k'

instance : DecidablePred IsPlain := fun ds =>
  List.decidableBAll _ ds

theorem lowerAfter_ne_of_sigma (h : IsPlain ds) (before cs : List Char) : lowerAfter before ('Σ' :: cs) ≠ ds := by
  rintro rfl
  rw [lowerAfter_sigma] at h
  have hhead := (h _ List.mem_cons_self).1
  split at hhead
  · exact absurd hhead (by decide)
  · exact absurd hhead (by decide)

theorem lowerAfter_ne_of_dotted (h : IsPlain ds) (before cs : List Char) : lowerAfter before ('İ' :: cs) ≠ ds := by
  rintro rfl
  rw [lowerAfter] at h
  have hsecond := (h _ (List.mem_cons_of_mem _ List.mem_cons_self)).1
  exact absurd hsecond (by decide)

theorem lowerAfter_eq_iff (h : IsPlain ds) : lowerAfter before cs = ds ↔ cs.map Char.toLower = ds := by
  induction cs generalizing before ds with
  | nil =>
    rw [lowerAfter]
    rfl
  | cons c cs ih =>
    have hhead (hne : 0x80 ≤ c.toLower.toNat) : (c :: cs).map Char.toLower ≠ ds := by
      rintro rfl
      exact absurd (h _ List.mem_cons_self).1 (Nat.not_lt_of_le hne)
    by_cases hsigma : c = 'Σ'
    · subst hsigma
      exact iff_of_false (lowerAfter_ne_of_sigma h before cs) (hhead (by decide))
    by_cases hdotted : c = 'İ'
    · subst hdotted
      exact iff_of_false (lowerAfter_ne_of_dotted h before cs) (hhead (by decide))
    rw [lowerAfter]
    · rw [List.map_cons]
      cases ds with
      | nil => simp
      | cons d ds =>
        rw [IsPlain, List.forall_mem_cons] at h
        rw [List.cons.injEq, List.cons.injEq]
        rw [ih h.2]
        rw [lowerChar_eq_iff h.1.1 h.1.2]
    · exact hsigma
    · exact hdotted

theorem lower_eq_iff (h : IsPlain t.toList) : lower s = t ↔ lowerAscii s = t := by
  unfold lower lowerAscii
  rw [← String.toList_inj, ← String.toList_inj]
  rw [String.toList_ofList, String.toList_map]
  exact lowerAfter_eq_iff h

theorem lower_eq_lower_iff (h : IsPlain (lowerAscii t).toList) : lower t = lower s ↔ lowerAscii t = lowerAscii s := by
  rw [(lower_eq_iff h).2 rfl]
  rw [eq_comm, lower_eq_iff h]
  exact eq_comm

end Workbench.Unicode
