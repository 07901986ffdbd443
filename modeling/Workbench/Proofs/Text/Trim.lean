import Mathlib.Data.List.TakeWhile
import Workbench.Text.Trim

/-!
Texts without white space at their ends.
-/

namespace Workbench.Text

variable {s : String} {cs : List Char} {c : Char} {p : Char → Bool}

def Bare (cs : List Char) : Prop :=
  (∀ c ∈ cs.head?, Unicode.isWhiteSpace c = false) ∧ ∀ c ∈ cs.getLast?, Unicode.isWhiteSpace c = false

theorem dropWhile_of_head? (h : ∀ c ∈ cs.head?, p c = false) : cs.dropWhile p = cs := by
  cases cs with
  | nil => rfl
  | cons c cs => exact List.dropWhile_cons_of_neg (Bool.eq_false_iff.1 (h c rfl))

theorem dropTrailing_of_getLast? (h : ∀ c ∈ cs.getLast?, p c = false) : dropTrailing p cs = cs := by
  rw [← List.head?_reverse] at h
  unfold dropTrailing
  rw [dropWhile_of_head? h]
  rw [List.reverse_reverse]

theorem trim_eq_self_iff : trim cs = cs ↔ Bare cs := by
  constructor
  · intro h
    constructor
    · intro c hc
      rw [← h] at hc
      exact head?_trim hc
    · intro c hc
      rw [← h] at hc
      exact getLast?_dropTrailing hc
  · rintro ⟨hhead, hlast⟩
    unfold trim
    rw [dropWhile_of_head? hhead]
    exact dropTrailing_of_getLast? hlast

instance : DecidablePred Bare := fun _ => decidable_of_iff _ trim_eq_self_iff

theorem length_trim_le (cs : List Char) : (trim cs).length ≤ cs.length :=
  Nat.le_trans (dropTrailing_isPrefix _ _).length_le (List.dropWhile_suffix _).length_le

theorem head?_trim_of_head? (h : cs.head? = some c) (hc : Unicode.isWhiteSpace c = false)
    : (trim cs).head? = some c := by
  have hdrop : cs.dropWhile Unicode.isWhiteSpace = cs := by
    apply dropWhile_of_head?
    rw [h]
    rintro _ ⟨⟩
    exact hc
  unfold trim
  rw [hdrop]
  cases htrim : (dropTrailing Unicode.isWhiteSpace cs).head? with
  | some d =>
    rw [← h]
    exact (head?_dropTrailing htrim).symm
  | none =>
    rw [List.head?_eq_none_iff] at htrim
    unfold dropTrailing at htrim
    rw [List.reverse_eq_nil_iff] at htrim
    have hwhite := List.dropWhile_eq_nil_iff.1 htrim c (List.mem_reverse.2 (List.mem_of_mem_head? h))
    rw [hc] at hwhite
    contradiction

@[simp]
theorem toList_trimString (s : String) : (trimString s).toList = trim s.toList := by
  apply String.toList_ofList

theorem trimString_eq_empty_iff : trimString s = "" ↔ trim s.toList = [] := by
  rw [← String.toList_inj]
  rw [toList_trimString]
  rfl

theorem trimString_eq_self_iff : trimString s = s ↔ Bare s.toList := by
  rw [← trim_eq_self_iff]
  rw [← String.toList_inj]
  rw [toList_trimString]

end Workbench.Text
