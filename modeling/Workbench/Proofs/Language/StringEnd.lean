import Mathlib.Data.List.Induction
import Workbench.Proofs.Language.Tiling
import Workbench.Proofs.Text.Words

/-!
Where strings end. Read from left to right, a backslash that is not escaped itself escapes the next character, so a
character is escaped if an odd number of backslashes stands before it. A string ends at the first quote that is not
escaped.
-/

namespace Workbench

namespace Text

def escapesNext (cs : List Char) : Bool :=
  cs.foldl (fun escaped c => !escaped && c == '\\') false

def backslashes (cs : List Char) : Nat :=
  (cs.reverse.takeWhile (· == '\\')).length

/-- Each quote of the text is escaped by what stands before it. -/
def QuotesEscaped (cs : List Char) : Prop :=
  ∀ a b, cs = a ++ '"' :: b → escapesNext a = true

theorem escapesNext_append {p : List Char} (h : escapesNext p = false) (cs : List Char)
    : escapesNext (p ++ cs) = escapesNext cs := by
  unfold escapesNext at h ⊢
  rw [List.foldl_append]
  rw [h]

theorem escapesNext_concat (cs : List Char) (c : Char)
    : escapesNext (cs ++ [c]) = (!escapesNext cs && c == '\\') := by
  simp [escapesNext]

theorem backslashes_concat (cs : List Char) (c : Char)
    : backslashes (cs ++ [c]) = if c = '\\' then backslashes cs + 1 else 0 := by
  unfold backslashes
  rw [List.reverse_append]
  split
  · next h => simp [h]
  · next h => simp [h]

theorem backslashes_append_quote (a cs : List Char) : backslashes (a ++ '"' :: cs) = backslashes cs := by
  unfold backslashes
  rw [List.reverse_append, List.reverse_cons, List.append_assoc]
  rw [List.singleton_append]
  rw [takeWhile_append_cons (by decide)]

theorem escapesNext_iff (cs : List Char) : escapesNext cs = true ↔ backslashes cs % 2 = 1 := by
  induction cs using List.reverseRecOn with
  | nil => decide
  | append_singleton cs c ih =>
    rw [escapesNext_concat, backslashes_concat]
    by_cases hc : c = '\\'
    · rw [if_pos hc]
      have hparity : escapesNext cs = false ↔ backslashes cs % 2 = 0 := by
        rw [← Bool.not_eq_true, ih]
        omega
      simp only [hc, beq_self_eq_true, Bool.and_true, Bool.not_eq_true', hparity]
      omega
    · simp [hc]

theorem QuotesEscaped.append {p cs : List Char} (hp : QuotesEscaped p) (hescapes : escapesNext p = false)
    (hcs : QuotesEscaped cs)
    : QuotesEscaped (p ++ cs) := by
  intro a b heq
  rcases List.append_eq_append_iff.1 heq with ⟨a', rfl, hquote⟩ | ⟨c, rfl, hquote⟩
  · rw [escapesNext_append hescapes]
    exact hcs a' b hquote
  · cases c with
    | nil =>
      rw [List.append_nil] at hescapes hp
      have hfirst := hcs [] b (by simpa using hquote.symm)
      contradiction
    | cons d c =>
      obtain ⟨rfl, -⟩ := List.cons.inj hquote
      exact hp a c rfl

theorem quotesEscaped_singleton {c : Char} (h : c ≠ '"') : QuotesEscaped [c] := by
  intro a b heq
  cases a with
  | nil => exact absurd (List.cons.inj heq).1 h
  | cons d a => simp at heq

theorem quotesEscaped_pair (c : Char) : QuotesEscaped ['\\', c] := by
  intro a b heq
  match a, heq with
  | [], heq => exact absurd (List.cons.inj heq).1 (by decide)
  | [d], heq =>
    rw [← (List.cons.inj heq).1]
    rfl
  | d :: e :: a, heq => simp at heq

end Text

namespace StringEnd

open Text

/-- The class and the length of the token that an opening quote begins, if so many characters follow it. -/
def token (length : Nat) : StringEnd → TokenClass × Nat
  | closed n => (.string, n + 2)
  | unclosed => (.invalidString, length + 1)
  | broken => (.identifier, 1)

def Ends (cs : List Char) : StringEnd → Prop
  | closed n => ∃ u v, cs = u ++ '"' :: v ∧ u.length = n ∧ QuotesEscaped u ∧ escapesNext u = false
  | unclosed => QuotesEscaped cs ∧ escapesNext cs = false
  | broken => '\n' ∉ cs → QuotesEscaped cs ∧ escapesNext cs = true

theorem Ends.prepend {p cs : List Char} {e : StringEnd} (hp : QuotesEscaped p) (hescapes : escapesNext p = false)
    (h : Ends cs e)
    : Ends (p ++ cs) (e.add p.length) := by
  -- A part before which nothing is escaped and after which nothing is, and without a quote that could end the
  -- string, leaves the end where it is.
  cases e with
  | closed n =>
    obtain ⟨u, v, rfl, rfl, hu, hclosed⟩ := h
    refine ⟨p ++ u, v, by simp, ?_, hp.append hescapes hu, ?_⟩
    · rw [List.length_append]
      omega
    · rw [escapesNext_append hescapes]
      exact hclosed
  | unclosed =>
    refine ⟨hp.append hescapes h.1, ?_⟩
    rw [escapesNext_append hescapes]
    exact h.2
  | broken =>
    intro hline
    obtain ⟨hcs, hbroken⟩ := h (by simp_all)
    refine ⟨hp.append hescapes hcs, ?_⟩
    rw [escapesNext_append hescapes]
    exact hbroken

theorem ne_backslash {c : Char} {cs : List Char} (hlast : c = '\\' → cs = [] → False)
    (hpair : ∀ d ds, c = '\\' → cs = d :: ds → False)
    : c ≠ '\\' := by
  intro hc
  cases cs with
  | nil => exact hlast hc rfl
  | cons d ds => exact hpair d ds hc rfl

theorem of_escape {c : Char} (h : c ≠ '\n') (cs : List Char)
    : StringEnd.of ('\\' :: c :: cs) = (StringEnd.of cs).add 2 := by
  rw [StringEnd.of]
  rw [if_neg h]

theorem of_plain {c : Char} (hquote : c ≠ '"') (hslash : c ≠ '\\') (cs : List Char)
    : StringEnd.of (c :: cs) = (StringEnd.of cs).add 1 := by
  rw [StringEnd.of]
  · exact hquote
  · intro hc
    exact absurd hc hslash
  · intro d ds hc
    exact absurd hc hslash

theorem ends_of (cs : List Char) : Ends cs (StringEnd.of cs) := by
  fun_induction StringEnd.of cs with
  | case1 =>
    constructor
    · intro a b heq
      simp at heq
    · rfl
  | case2 cs =>
    refine ⟨[], cs, rfl, rfl, ?_, rfl⟩
    intro a b heq
    simp at heq
  | case3 =>
    intro _
    exact ⟨quotesEscaped_singleton (by decide), rfl⟩
  | case4 cs =>
    intro hline
    simp at hline
  | case5 c cs hc ih => exact Ends.prepend (p := ['\\', c]) (quotesEscaped_pair c) rfl ih
  | case6 c cs hquote hlast hslash ih =>
    apply Ends.prepend (p := [c])
    · exact quotesEscaped_singleton hquote
    · simpa [escapesNext] using ne_backslash hlast hslash
    · exact ih

theorem exists_of_eq_closed {a b : List Char} (hline : '\n' ∉ a ++ '"' :: b) (h : escapesNext a = false)
    : ∃ n, StringEnd.of (a ++ '"' :: b) = closed n := by
  have hends := ends_of (a ++ '"' :: b)
  cases hof : StringEnd.of (a ++ '"' :: b) with
  | closed n => exact ⟨n, rfl⟩
  | unclosed =>
    rw [hof] at hends
    rw [hends.1 a b rfl] at h
    contradiction
  | broken =>
    rw [hof] at hends
    rw [(hends hline).1 a b rfl] at h
    contradiction

theorem of_eq_of_quotesEscaped {cs : List Char} (hline : '\n' ∉ cs) (h : QuotesEscaped cs)
    : StringEnd.of cs = if escapesNext cs then broken else unclosed := by
  have hends := ends_of cs
  cases hof : StringEnd.of cs with
  | closed n =>
    rw [hof] at hends
    obtain ⟨u, v, rfl, -, -, hclosed⟩ := hends
    rw [h u v rfl] at hclosed
    contradiction
  | unclosed =>
    rw [hof] at hends
    rw [hends.2]
    rfl
  | broken =>
    rw [hof] at hends
    rw [(hends hline).2]
    rfl

theorem of_concat_ne_broken {cs : List Char} {c : Char} (hline : '\n' ∉ cs ++ [c]) (hc : c ≠ '\\')
    : StringEnd.of (cs ++ [c]) ≠ broken := by
  intro hbroken
  have hends := ends_of (cs ++ [c])
  rw [hbroken] at hends
  have hescapes := (hends hline).2
  rw [escapesNext_concat] at hescapes
  simp [hc] at hescapes

theorem of_append {cs : List Char} {n : Nat} (h : StringEnd.of cs = closed n) (ds : List Char)
    : StringEnd.of (cs ++ ds) = closed n := by
  fun_induction StringEnd.of cs generalizing n with
  | case1 => contradiction
  | case2 =>
    exact h
  | case3 => contradiction
  | case4 => contradiction
  | case5 c cs hc ih =>
    obtain ⟨m, hm, rfl⟩ := add_eq_closed h
    rw [List.cons_append, List.cons_append]
    rw [of_escape hc]
    rw [ih hm]
    rfl
  | case6 c cs hquote hlast hslash ih =>
    obtain ⟨m, hm, rfl⟩ := add_eq_closed h
    rw [List.cons_append]
    rw [of_plain hquote (ne_backslash hlast hslash)]
    rw [ih hm]
    rfl

end StringEnd

end Workbench
