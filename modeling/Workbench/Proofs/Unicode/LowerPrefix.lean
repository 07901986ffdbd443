import Mathlib.Data.List.TakeWhile
import Workbench.Unicode.Case

/-!
Lower case of the beginning of a text. Every character is taken on its own, except a capital sigma, which
looks at the letters around it: where a text goes on, its last sigma may no longer end a word.
-/

namespace Workbench.Unicode

/--
A capital sigma ends the last word of the text, with nothing but skipped characters after it. The characters
before the text are `before`, the nearest first.
-/
def EndsInFinalSigma (before cs : List Char) : Prop :=
  ∃ u skipped, cs = u ++ 'Σ' :: skipped ∧ (∀ c ∈ skipped, isCaseIgnorable c = true)
    ∧ nextIsCased (u.reverse ++ before) = true

variable {before u v : List Char} {c : Char}

theorem not_endsInFinalSigma_nil : ¬ EndsInFinalSigma before [] := by
  rintro ⟨u, skipped, h, -⟩
  simp at h

theorem endsInFinalSigma_cons
    : EndsInFinalSigma before (c :: u)
        ↔ (c = 'Σ' ∧ (∀ d ∈ u, isCaseIgnorable d = true) ∧ nextIsCased before = true)
          ∨ EndsInFinalSigma (c :: before) u := by
  constructor
  · rintro ⟨w, skipped, h, hskipped, hcased⟩
    cases w with
    | nil =>
      rw [List.nil_append, List.cons.injEq] at h
      obtain ⟨rfl, rfl⟩ := h
      exact .inl ⟨rfl, hskipped, hcased⟩
    | cons d w =>
      rw [List.cons_append, List.cons.injEq] at h
      obtain ⟨rfl, rfl⟩ := h
      rw [List.reverse_cons, List.append_assoc, List.singleton_append] at hcased
      exact .inr ⟨w, skipped, rfl, hskipped, hcased⟩
  · rintro (⟨rfl, hskipped, hcased⟩ | ⟨w, skipped, rfl, hskipped, hcased⟩)
    · exact ⟨[], u, rfl, hskipped, hcased⟩
    · refine ⟨c :: w, skipped, rfl, hskipped, ?_⟩
      rw [List.reverse_cons, List.append_assoc, List.singleton_append]
      exact hcased

theorem nextIsCased_append_skipped (hu : ∀ d ∈ u, isCaseIgnorable d = true) (v : List Char)
    : nextIsCased (u ++ v) = nextIsCased v := by
  unfold nextIsCased
  rw [List.dropWhile_append_of_pos hu]

theorem nextIsCased_append_seen (hu : ¬ ∀ d ∈ u, isCaseIgnorable d = true) (v : List Char)
    : nextIsCased (u ++ v) = nextIsCased u := by
  have hne : u.dropWhile isCaseIgnorable ≠ [] := by
    rw [ne_eq, List.dropWhile_eq_nil_iff]
    exact hu
  obtain ⟨d, rest, hd⟩ := List.exists_cons_of_ne_nil hne
  unfold nextIsCased
  rw [List.dropWhile_append]
  rw [hd]
  rfl

theorem nextIsCased_of_skipped (hu : ∀ d ∈ u, isCaseIgnorable d = true) : nextIsCased u = false := by
  have h := nextIsCased_append_skipped hu []
  rw [List.append_nil] at h
  exact h

theorem lowerAfter_sigma (before cs : List Char)
    : lowerAfter before ('Σ' :: cs)
        = (if nextIsCased before && !nextIsCased cs then 'ς' else 'σ') :: lowerAfter ('Σ' :: before) cs := by
  rw [lowerAfter]

theorem exists_lowerAfter_cons (h : c ≠ 'Σ')
    : ∃ l, ∀ before cs, lowerAfter before (c :: cs) = l ++ lowerAfter (c :: before) cs := by
  -- The other characters do not look at what is around them.
  by_cases hdot : c = 'İ'
  · rw [hdot]
    exact ⟨['i', Char.ofNat 0x307], fun before cs => by
      rw [lowerAfter]
      rfl⟩
  · exact ⟨[lowerChar c], fun before cs => by
      rw [lowerAfter]
      · rfl
      · exact h
      · exact hdot⟩

theorem length_lowerAfter_append (before u v : List Char)
    : (lowerAfter before (u ++ v)).length
        = (lowerAfter before u).length + (lowerAfter (u.reverse ++ before) v).length := by
  induction u generalizing before with
  | nil =>
    rw [lowerAfter]
    simp
  | cons c u ih =>
    have hreverse : (c :: u).reverse ++ before = u.reverse ++ c :: before := by simp
    rw [List.cons_append]
    rw [hreverse]
    by_cases hc : c = 'Σ'
    · rw [hc]
      rw [lowerAfter_sigma, lowerAfter_sigma]
      rw [List.length_cons, List.length_cons]
      rw [ih]
      omega
    · obtain ⟨l, hl⟩ := exists_lowerAfter_cons hc
      rw [hl, hl]
      rw [List.length_append, List.length_append]
      rw [ih]
      omega

theorem sigma_eq_iff
    : (if nextIsCased before && !nextIsCased u then 'ς' else 'σ')
          = (if nextIsCased before && !nextIsCased (u ++ v) then 'ς' else 'σ')
        ↔ ¬ ((∀ d ∈ u, isCaseIgnorable d = true) ∧ nextIsCased before = true ∧ nextIsCased v = true) := by
  -- What goes on after the text changes the sigma before `u` exactly if it shows a letter to it.
  by_cases hu : ∀ d ∈ u, isCaseIgnorable d = true
  · rw [nextIsCased_append_skipped hu]
    rw [nextIsCased_of_skipped hu]
    rw [and_iff_right hu]
    cases nextIsCased before <;> cases nextIsCased v <;> simp
  · rw [nextIsCased_append_seen hu]
    exact iff_of_true rfl fun h => hu h.1

theorem lowerAfter_prefix_iff (before u v : List Char)
    : lowerAfter before u <+: lowerAfter before (u ++ v)
        ↔ ¬ (EndsInFinalSigma before u ∧ nextIsCased v = true) := by
  induction u generalizing before with
  | nil =>
    rw [lowerAfter]
    simp [not_endsInFinalSigma_nil]
  | cons c u ih =>
    rw [List.cons_append]
    rw [endsInFinalSigma_cons]
    by_cases hc : c = 'Σ'
    · rw [hc]
      rw [lowerAfter_sigma, lowerAfter_sigma]
      rw [List.cons_prefix_cons]
      rw [sigma_eq_iff, ih]
      grind
    · obtain ⟨l, hl⟩ := exists_lowerAfter_cons hc
      rw [hl, hl]
      rw [List.prefix_append_right_inj]
      rw [ih]
      simp [hc]

end Workbench.Unicode
