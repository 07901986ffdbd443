import Mathlib.Data.List.Basic
import Workbench.Editor.Popup
import Workbench.Proofs.Unicode.LowerPrefix

/-!
What the list of completions keeps while a word is typed. An item whose label begins with the word is listed,
unless the word ends in a final sigma that is none in the label; and where a word goes on, the list gets
shorter, unless such a sigma is passed.
-/

namespace Workbench.CompletionPopup

open Text (Position Word)
open Unicode (EndsInFinalSigma lowerAfter nextIsCased)

def listed (items : List CompletionItem) (typed : Word) (anchor : Position) : List CompletionItem :=
  ((filtered? items (some typed) anchor).map (·.items)).getD []

variable {items : List CompletionItem} {item : CompletionItem} {typed more : Word} {anchor anchor' : Position}
  {word rest : List Char}

theorem listed_eq (items : List CompletionItem) (typed : Word) (anchor : Position)
    : listed items typed anchor = items.filter (labelMatches typed.text) := by
  unfold listed filtered?
  dsimp only
  split
  · next hempty =>
    rw [List.isEmpty_iff.1 hempty]
    rfl
  · rfl

theorem labelMatches_iff
    : labelMatches word item = true ↔ lowerAfter [] word <+: lowerAfter [] item.label.toList := by
  unfold labelMatches Unicode.lower
  rw [List.isPrefixOf_iff_prefix]
  rw [String.toList_ofList, String.toList_ofList, String.toList_ofList]

theorem labelMatches_label : labelMatches item.label.toList item = true :=
  labelMatches_iff.2 List.prefix_rfl

theorem labelMatches_iff_of_append (h : labelMatches (word ++ rest) item = true)
    : labelMatches word item = true ↔ ¬ (EndsInFinalSigma [] word ∧ nextIsCased rest = true) := by
  rw [labelMatches_iff] at h ⊢
  rw [← Unicode.lowerAfter_prefix_iff]
  constructor
  · intro hword
    apply List.prefix_of_prefix_length_le hword h
    rw [Unicode.length_lowerAfter_append]
    exact Nat.le_add_right _ _
  · exact fun hprefix => hprefix.trans h

theorem mem_listed_iff (hitem : item ∈ items) (hlabel : item.label.toList = typed.text ++ rest)
    : item ∈ listed items typed anchor ↔ ¬ (EndsInFinalSigma [] typed.text ∧ nextIsCased rest = true) := by
  rw [listed_eq, List.mem_filter]
  rw [and_iff_right hitem]
  apply labelMatches_iff_of_append
  rw [← hlabel]
  exact labelMatches_label

theorem listed_sublist_iff (hmore : more.text = typed.text ++ rest)
    : (listed items more anchor').Sublist (listed items typed anchor)
        ↔ (EndsInFinalSigma [] typed.text ∧ nextIsCased rest = true → listed items more anchor' = []) := by
  rw [listed_eq, listed_eq]
  rw [hmore]
  constructor
  · rintro hsublist hsigma
    rw [List.eq_nil_iff_forall_not_mem]
    intro item hitem
    have htyped := (List.mem_filter.1 (hsublist.subset hitem)).2
    exact (labelMatches_iff_of_append (List.mem_filter.1 hitem).2).1 htyped hsigma
  · intro hnone
    by_cases hsigma : EndsInFinalSigma [] typed.text ∧ nextIsCased rest = true
    · rw [hnone hsigma]
      exact List.nil_sublist _
    · apply List.monotone_filter_right
      intro item hitem
      exact (labelMatches_iff_of_append hitem).2 hsigma

end Workbench.CompletionPopup
