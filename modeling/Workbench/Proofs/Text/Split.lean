import Mathlib.Algebra.GroupWithZero.Nat
import Workbench.Proofs.Text.Lines

/-!
The parts between the separators of a list, and the lines of a text whose lines end in line feeds
alone: these are the parts between its line feeds, each but the last with the line feed after it. The rows of
a plain text are these parts too, up to white space at their ends.
-/

namespace Workbench.Text

def closed {α : Type} (sep : α) (ls : List (List α)) : List α :=
  ls.flatMap (· ++ [sep])

theorem closed_cons {α : Type} {sep : α} (l : List α) (ls : List (List α))
    : closed sep (l :: ls) = l ++ sep :: closed sep ls := by
  simp [closed]

theorem length_closed {α : Type} (sep : α) (ls : List (List α))
    : (closed sep ls).length = (ls.map (·.length + 1)).sum := by
  simp [closed, List.length_flatMap]

section Split

variable {α : Type} [DecidableEq α] {sep : α} {as u : List α} {ls rest : List (List α)}

theorem splitAt_ne_nil (sep : α) (as : List α) : splitAt sep as ≠ [] := by
  cases as with
  | nil => simp [splitAt]
  | cons a as =>
    rw [splitAt]
    split
    · simp
    · apply consFirst_ne_nil

theorem exists_splitAt_eq (sep : α) (as : List α) : ∃ ls u, splitAt sep as = ls ++ [u] :=
  ⟨_, _, (List.dropLast_concat_getLast (splitAt_ne_nil sep as)).symm⟩

theorem splitAt_of_not_mem (hu : sep ∉ u) : splitAt sep u = [u] := by
  induction u with
  | nil => rfl
  | cons a u ih =>
    rw [List.mem_cons, not_or] at hu
    rw [splitAt]
    rw [if_neg (Ne.symm hu.1)]
    rw [ih hu.2]
    rfl

theorem splitAt_append {w : List α} (hu : sep ∉ u) (h : splitAt sep as = w :: rest)
    : splitAt sep (u ++ as) = (u ++ w) :: rest := by
  induction u with
  | nil => exact h
  | cons a u ih =>
    rw [List.mem_cons, not_or] at hu
    rw [List.cons_append]
    rw [splitAt]
    rw [if_neg (Ne.symm hu.1)]
    rw [ih hu.2]
    rfl

theorem splitAt_append_sep (hu : sep ∉ u) (as : List α)
    : splitAt sep (u ++ sep :: as) = u :: splitAt sep as := by
  have hsep : splitAt sep (sep :: as) = [] :: splitAt sep as := by
    rw [splitAt]
    rw [if_pos rfl]
  rw [splitAt_append hu hsep]
  rw [List.append_nil]

theorem splitAt_closed_append (hls : ∀ l ∈ ls, sep ∉ l) (as : List α)
    : splitAt sep (closed sep ls ++ as) = ls ++ splitAt sep as := by
  induction ls with
  | nil => rfl
  | cons l ls ih =>
    rw [List.forall_mem_cons] at hls
    rw [closed_cons]
    rw [List.append_assoc, List.cons_append]
    rw [splitAt_append_sep hls.1]
    rw [ih hls.2]
    rfl

theorem splitAt_eq_cons (h : splitAt sep as = u :: rest)
    : sep ∉ u ∧ (as = u ∧ rest = [] ∨ ∃ as', as = u ++ sep :: as' ∧ splitAt sep as' = rest) := by
  fun_induction splitAt sep as generalizing u with
  | case1 =>
    cases h
    exact ⟨List.not_mem_nil, .inl ⟨rfl, rfl⟩⟩
  | case2 as =>
    cases h
    exact ⟨List.not_mem_nil, .inr ⟨as, rfl, rfl⟩⟩
  | case3 a as ha ih =>
    obtain ⟨w, ws, hw⟩ := List.exists_cons_of_ne_nil (splitAt_ne_nil sep as)
    rw [hw] at h
    cases h
    obtain ⟨hnot, hrest⟩ := ih hw
    refine ⟨by simp [hnot, Ne.symm ha], ?_⟩
    cases hrest with
    | inl hlast => exact .inl ⟨by rw [hlast.1], hlast.2⟩
    | inr hmore =>
      obtain ⟨as', has', hsplit⟩ := hmore
      exact .inr ⟨as', by rw [has']; rfl, hsplit⟩

theorem splitAt_eq_append (h : splitAt sep as = ls ++ u :: rest)
    : ∃ bs, as = closed sep ls ++ bs ∧ splitAt sep bs = u :: rest ∧ ∀ l ∈ ls, sep ∉ l := by
  induction ls generalizing as with
  | nil => exact ⟨as, rfl, h, by simp⟩
  | cons l ls ih =>
    obtain ⟨hl, hlast | ⟨as', has', hsplit⟩⟩ := splitAt_eq_cons h
    · simp at hlast
    · obtain ⟨bs, hbs, hrest, hls⟩ := ih hsplit
      refine ⟨bs, ?_, hrest, List.forall_mem_cons.2 ⟨hl, hls⟩⟩
      rw [has', hbs]
      rw [closed_cons]
      simp

theorem takeWhile_append_of_not_mem (hu : sep ∉ u) (as : List α)
    : (u ++ as).takeWhile (· ≠ sep) = u ++ as.takeWhile (· ≠ sep) := by
  apply List.takeWhile_append_of_pos
  intro a ha
  rw [decide_eq_true_eq]
  rintro rfl
  exact hu ha

theorem takeWhile_of_splitAt (h : splitAt sep as = u :: rest) : as.takeWhile (· ≠ sep) = u := by
  obtain ⟨hu, hlast | ⟨as', rfl, -⟩⟩ := splitAt_eq_cons h
  · rw [hlast.1]
    rw [← List.append_nil u]
    rw [takeWhile_append_of_not_mem hu]
    rfl
  · rw [takeWhile_append_of_not_mem hu]
    simp

theorem eq_closed_append (h : splitAt sep as = ls ++ [u])
    : as = closed sep ls ++ u ∧ sep ∉ u ∧ ∀ l ∈ ls, sep ∉ l := by
  obtain ⟨bs, rfl, hlast, hls⟩ := splitAt_eq_append h
  obtain ⟨hu, hbs | ⟨cs, -, hmore⟩⟩ := splitAt_eq_cons hlast
  · rw [hbs.1]
    exact ⟨rfl, hu, hls⟩
  · exact absurd hmore (splitAt_ne_nil sep cs)

theorem splitAt_append_sep_append (as bs : List α)
    : splitAt sep (as ++ sep :: bs) = splitAt sep as ++ splitAt sep bs := by
  obtain ⟨ls, u, hsplit⟩ := exists_splitAt_eq sep as
  obtain ⟨has, hu, hls⟩ := eq_closed_append hsplit
  rw [hsplit]
  rw [has]
  rw [List.append_assoc, splitAt_closed_append hls]
  rw [splitAt_append_sep hu]
  rw [List.append_assoc]
  rfl

theorem closed_splitAt (sep : α) (as : List α) : closed sep (splitAt sep as) = as ++ [sep] := by
  obtain ⟨ls, u, hsplit⟩ := exists_splitAt_eq sep as
  obtain ⟨has, -, -⟩ := eq_closed_append hsplit
  rw [hsplit]
  rw [has]
  simp [closed]

theorem count_of_splitAt (h : splitAt sep as = ls ++ [u]) : as.count sep = ls.length := by
  obtain ⟨rfl, hu, hls⟩ := eq_closed_append h
  rw [List.count_append]
  rw [List.count_eq_zero_of_not_mem hu]
  clear h
  induction ls with
  | nil => rfl
  | cons l ls ih =>
    rw [List.forall_mem_cons] at hls
    rw [closed_cons]
    rw [List.count_append, List.count_cons_self]
    rw [List.count_eq_zero_of_not_mem hls.1]
    specialize ih hls.2
    rw [List.length_cons]
    omega

theorem takeWhile_reverse_of_splitAt (h : splitAt sep as = ls ++ [u])
    : as.reverse.takeWhile (· ≠ sep) = u.reverse := by
  obtain ⟨rfl, hu, -⟩ := eq_closed_append h
  have hu' : sep ∉ u.reverse := by
    rw [List.mem_reverse]
    exact hu
  rw [List.reverse_append]
  rw [takeWhile_append_of_not_mem hu']
  rw [List.append_right_eq_self]
  cases List.eq_nil_or_concat ls with
  | inl hnil =>
    rw [hnil]
    rfl
  | inr hconcat =>
    obtain ⟨ls, l, rfl⟩ := hconcat
    simp [closed]

end Split

theorem unbroken_of_feedsOnly {cs : List Char} (hcs : FeedsOnly cs) (h : '\n' ∉ cs)
    : Unbroken cs := by
  intro c hc
  rw [← Bool.not_eq_true]
  intro hbreak
  rw [hcs c hc hbreak] at hc
  exact h hc

theorem unbroken_of_mem_splitAt {cs u : List Char} (hcs : FeedsOnly cs) (h : u ∈ splitAt '\n' cs)
    : Unbroken u := by
  obtain ⟨ls, rest, hsplit⟩ := List.append_of_mem h
  obtain ⟨bs, rfl, hbs, -⟩ := splitAt_eq_append hsplit
  have hfeeds := (feedsOnly_append.1 hcs).2
  obtain ⟨hu, hlast | ⟨as, has, -⟩⟩ := splitAt_eq_cons hbs
  · rw [hlast.1] at hfeeds
    exact unbroken_of_feedsOnly hfeeds hu
  · rw [has, feedsOnly_append] at hfeeds
    exact unbroken_of_feedsOnly hfeeds.1 hu

theorem lines_of_splitAt {cs u : List Char} {ls : List (List Char)} (hcs : FeedsOnly cs)
    (h : splitAt '\n' cs = ls ++ [u])
    : lines cs = ls.map (· ++ ['\n']) ++ [u] := by
  obtain ⟨rfl, hu, hls⟩ := eq_closed_append h
  clear h
  induction ls with
  | nil => exact lines_of_unbroken (unbroken_of_feedsOnly hcs hu)
  | cons l ls ih =>
    rw [List.forall_mem_cons] at hls
    rw [closed_cons] at hcs ⊢
    rw [← List.singleton_append (l := closed '\n' ls)] at hcs ⊢
    rw [← List.append_assoc, List.append_assoc] at hcs ⊢
    rw [feedsOnly_append] at hcs
    have hl := unbroken_of_feedsOnly (feedsOnly_append.1 hcs.1).1 hls.1
    have hfeed : IsBreak ['\n'] := .inr ⟨'\n', by decide, rfl⟩
    rw [lines_append_closed hl hfeed (not_fuses_of_feedsOnly hcs.1)]
    rw [ih hcs.2 hls.2]
    rfl

theorem getD_consFirst_zero {α : Type} (a : α) (ls : List (List α))
    : (consFirst a ls).getD 0 [] = a :: ls.getD 0 [] := by
  cases ls with
  | nil => rfl
  | cons l ls => rfl

theorem getD_consFirst_succ {α : Type} (a : α) (ls : List (List α)) (n : Nat)
    : (consFirst a ls).getD (n + 1) [] = ls.getD (n + 1) [] := by
  cases ls with
  | nil => rfl
  | cons l ls => rfl

section Rows

variable {α : Type} [DecidableEq α] {feed ret : α}

theorem getD_splitAt (h : ret ≠ feed) (as : List α) (n : Nat)
    : ∃ e, (e = [] ∨ e = [ret]) ∧ (splitAt feed as).getD n [] = (rowsBy feed ret as).getD n [] ++ e := by
  fun_induction rowsBy feed ret as generalizing n with
  | case1 =>
    refine ⟨[], .inl rfl, ?_⟩
    cases n with
    | zero => rfl
    | succ n => rfl
  | case2 =>
    refine ⟨[], .inl rfl, ?_⟩
    rw [splitAt, if_pos rfl]
    match n with
    | 0 => rfl
    | 1 => rfl
    | n + 2 => rfl
  | case3 a ha =>
    refine ⟨[], .inl rfl, ?_⟩
    rw [splitAt_of_not_mem (by simpa using Ne.symm ha)]
    rw [List.append_nil]
  | case4 b as ih =>
    rw [splitAt, if_pos rfl]
    cases n with
    | zero => exact ⟨[], .inl rfl, rfl⟩
    | succ n => exact ih n
  | case5 a b as ha hpair ih =>
    obtain ⟨rfl, rfl⟩ := hpair
    rw [splitAt, if_neg h]
    rw [splitAt, if_pos rfl]
    cases n with
    | zero => exact ⟨[a], .inr rfl, rfl⟩
    | succ n => exact ih n
  | case6 a b as ha hpair ih =>
    rw [splitAt, if_neg ha]
    obtain ⟨e, he, heq⟩ := ih n
    refine ⟨e, he, ?_⟩
    cases n with
    | zero =>
      rw [getD_consFirst_zero, getD_consFirst_zero]
      rw [heq]
      rfl
    | succ n =>
      rw [getD_consFirst_succ, getD_consFirst_succ]
      exact heq

theorem not_mem_of_mem_rowsBy {as row : List α} (h : row ∈ rowsBy feed ret as) : feed ∉ row := by
  fun_induction rowsBy feed ret as generalizing row with
  | case1 => contradiction
  | case2 =>
    rw [List.mem_singleton.1 h]
    exact List.not_mem_nil
  | case3 a ha =>
    rw [List.mem_singleton.1 h]
    simpa using Ne.symm ha
  | case4 b as ih =>
    rcases List.mem_cons.1 h with rfl | hrow
    · exact List.not_mem_nil
    · exact ih hrow
  | case5 a b as ha hpair ih =>
    rcases List.mem_cons.1 h with rfl | hrow
    · exact List.not_mem_nil
    · exact ih hrow
  | case6 a b as ha hpair ih =>
    cases hrows : rowsBy feed ret (b :: as) with
    | nil =>
      rw [hrows] at h
      rw [List.mem_singleton.1 h]
      simpa using Ne.symm ha
    | cons first rest =>
      rw [hrows] at h ih
      rw [List.forall_mem_cons] at ih
      rcases List.mem_cons.1 h with rfl | hrow
      · rw [List.mem_cons, not_or]
        exact ⟨Ne.symm ha, ih.1⟩
      · exact ih.2 row hrow

end Rows

theorem trim_row (cs : List Char) (n : Nat)
    : trim ((rows cs).getD n []) = trim ((splitAt '\n' cs).getD n []) := by
  have hret : '\r' ≠ '\n' := by decide
  obtain ⟨e, he, heq⟩ := getD_splitAt hret cs n
  rw [heq]
  cases he with
  | inl hnil =>
    rw [hnil]
    rw [List.append_nil]
    rfl
  | inr hone =>
    have hwhite : ∀ c ∈ ['\r'], Unicode.isWhiteSpace c := by
      rw [List.forall_mem_singleton]
      rfl
    rw [hone]
    rw [trim_append_of_white hwhite]
    rfl

end Workbench.Text
