import Workbench.Language.Registry
import Workbench.Proofs.Editor.Joining
import Workbench.Proofs.Text.Split

/-!
The two ways to read a text by lines. A document cuts it at eight breaks and drops every line feed and carriage
return at the end of a line; a plain text is cut at line feeds and its parts lose the carriage returns at their
ends. Both read the same in a text whose breaks are line feeds, alone or after a carriage return, and in no other
text.
-/

namespace Workbench

namespace Text

/-- The only breaks of the text are line feeds, with or without a carriage return before them. -/
structure FeedsAndPairs (cs : List Char) : Prop where
  returns : ∀ a b, cs = a ++ '\r' :: b → b.head? = some '\n'
  others : ∀ c ∈ ['\x0b', '\x0c', '\u0085', '\u2028', '\u2029'], c ∉ cs

variable {c : Char} {cs : List Char}

theorem isLineBreak_iff
    : isLineBreak c = true ↔ c = '\n' ∨ c = '\r' ∨ c ∈ ['\x0b', '\x0c', '\u0085', '\u2028', '\u2029'] := by
  simp [isLineBreak, or_assoc]

theorem ne_of_not_isLineBreak (hc : ¬ isLineBreak c = true) : c ≠ '\n' ∧ c ≠ '\r' := by
  constructor
  · rintro rfl
    exact hc rfl
  · rintro rfl
    exact hc rfl

theorem feedsAndPairs_nil : FeedsAndPairs [] where
  returns _ _ h := by simp at h
  others _ _ := List.not_mem_nil

theorem feedsAndPairs_cons
    : FeedsAndPairs (c :: cs)
        ↔ (isLineBreak c = true → c = '\n' ∨ Fuses [c] cs) ∧ FeedsAndPairs cs := by
  constructor
  · refine fun h => ⟨fun hc => ?_, ⟨fun a b hcs => ?_, fun x hx hmem => ?_⟩⟩
    · rcases isLineBreak_iff.1 hc with rfl | rfl | hother
      · exact .inl rfl
      · exact .inr ⟨rfl, h.returns [] cs rfl⟩
      · exact absurd List.mem_cons_self (h.others c hother)
    · exact h.returns (c :: a) b (by rw [hcs]; rfl)
    · exact h.others x hx (List.mem_cons_of_mem c hmem)
  · rintro ⟨hc, h⟩
    refine ⟨fun a b hcs => ?_, fun x hx hmem => ?_⟩
    · cases a with
      | nil =>
        cases hcs
        cases hc (by decide) with
        | inl hfeed => exact absurd hfeed (by decide)
        | inr hfuses => exact hfuses.2
      | cons d a =>
        cases hcs
        exact h.returns a b rfl
    · cases hmem with
      | tail _ hmem => exact h.others x hx hmem
      | head =>
        cases hc (isLineBreak_iff.2 (.inr (.inr hx))) with
        | inl hfeed =>
          rw [hfeed] at hx
          exact absurd hx (by decide)
        | inr hfuses =>
          have hreturn : c = '\r' := by simpa using hfuses.1
          rw [hreturn] at hx
          exact absurd hx (by decide)

theorem dropTrailing_cons {p : Char → Bool} (h : p c = false) (cs : List Char)
    : dropTrailing p (c :: cs) = c :: dropTrailing p cs := by
  unfold dropTrailing
  rw [List.reverse_cons, List.dropWhile_append]
  split
  · next hempty =>
    rw [List.isEmpty_iff.1 hempty]
    simp [h]
  · simp

theorem map_consFirst {α β : Type} {f : List α → List β} {a : α} {b : β} {ls : List (List α)}
    (h : ∀ l, f (a :: l) = b :: f l) (hls : ls ≠ [])
    : (consFirst a ls).map f = consFirst b (ls.map f) := by
  cases ls with
  | nil => exact absurd rfl hls
  | cons l ls => simp [consFirst, h]

theorem length_consFirst {α : Type} {ls : List (List α)} (a : α) (hls : ls ≠ [])
    : (consFirst a ls).length = ls.length := by
  cases ls with
  | nil => exact absurd rfl hls
  | cons l ls => rfl

theorem splitAt_feed (cs : List Char) : splitAt '\n' ('\n' :: cs) = [] :: splitAt '\n' cs :=
  splitAt_append_sep List.not_mem_nil cs

theorem splitAt_pair (cs : List Char)
    : splitAt '\n' ('\r' :: '\n' :: cs) = ['\r'] :: splitAt '\n' cs :=
  splitAt_append_sep (u := ['\r']) (by decide) cs

theorem splitAt_cons (hc : c ≠ '\n') (cs : List Char)
    : splitAt '\n' (c :: cs) = consFirst c (splitAt '\n' cs) := by
  rw [splitAt]
  rw [if_neg hc]

theorem length_splitAt_cons (hc : c ≠ '\n') (cs : List Char)
    : (splitAt '\n' (c :: cs)).length = (splitAt '\n' cs).length := by
  rw [splitAt_cons hc]
  exact length_consFirst c (splitAt_ne_nil '\n' cs)

theorem map_content_lines (h : FeedsAndPairs cs)
    : (lines cs).map content = (splitAt '\n' cs).map (dropTrailing (· == '\r')) := by
  fun_induction lines cs with
  | case1 => rfl
  | case2 cs ih =>
    rw [splitAt_pair]
    rw [List.map_cons, List.map_cons]
    rw [ih (feedsAndPairs_cons.1 (feedsAndPairs_cons.1 h).2).2]
    rfl
  | case3 c cs hpair hc ih =>
    obtain ⟨hfeed, hcs⟩ := feedsAndPairs_cons.1 h
    cases hfeed hc with
    | inl hc =>
      subst hc
      rw [splitAt_feed]
      rw [List.map_cons, List.map_cons]
      rw [ih hcs]
      rfl
    | inr hfuses =>
      obtain ⟨rest, hrest⟩ := List.head?_eq_some_iff.1 hfuses.2
      exact (hpair rest (by simpa using hfuses.1) hrest).elim
  | case4 c cs _ hc ih =>
    obtain ⟨hfeed, hreturn⟩ := ne_of_not_isLineBreak hc
    have hcontent : ∀ l, content (c :: l) = c :: content l :=
      dropTrailing_cons (by simp [isFeedOrReturn, hfeed, hreturn])
    have hreturns : ∀ l, dropTrailing (· == '\r') (c :: l) = c :: dropTrailing (· == '\r') l :=
      dropTrailing_cons (by simp [hreturn])
    rw [splitAt_cons hfeed]
    rw [map_consFirst hcontent (lines_ne_nil cs)]
    rw [map_consFirst hreturns (splitAt_ne_nil '\n' cs)]
    rw [ih (feedsAndPairs_cons.1 h).2]

theorem length_splitAt_le (cs : List Char) : (splitAt '\n' cs).length ≤ (lines cs).length := by
  fun_induction lines cs with
  | case1 => exact Nat.le_refl 1
  | case2 cs ih =>
    rw [splitAt_pair]
    exact Nat.succ_le_succ ih
  | case3 c cs _ hc ih =>
    by_cases hfeed : c = '\n'
    · rw [hfeed, splitAt_feed]
      exact Nat.succ_le_succ ih
    · rw [length_splitAt_cons hfeed]
      exact Nat.le_succ_of_le ih
  | case4 c cs _ hc ih =>
    have hfeed := (ne_of_not_isLineBreak hc).1
    rw [length_splitAt_cons hfeed]
    rw [length_consFirst c (lines_ne_nil cs)]
    exact ih

theorem feedEnds_iff : FeedEnds cs ↔ FeedsAndPairs cs := by
  unfold FeedEnds
  fun_induction lines cs with
  | case1 => simp [feedsAndPairs_nil]
  | case2 cs ih =>
    rw [List.dropLast_cons_of_ne_nil (lines_ne_nil cs), List.forall_mem_cons]
    rw [ih]
    rw [feedsAndPairs_cons, feedsAndPairs_cons]
    simp [Fuses]
  | case3 c cs hpair hc ih =>
    have hfuses : ¬ Fuses [c] cs := by
      rintro ⟨hreturn, hfeed⟩
      obtain ⟨rest, hrest⟩ := List.head?_eq_some_iff.1 hfeed
      exact hpair rest (by simpa using hreturn) hrest
    rw [List.dropLast_cons_of_ne_nil (lines_ne_nil cs), List.forall_mem_cons]
    rw [ih]
    rw [feedsAndPairs_cons]
    simp [hc, hfuses]
  | case4 c cs _ hc ih =>
    have hfeed := (ne_of_not_isLineBreak hc).1
    rw [feedsAndPairs_cons]
    rw [← ih]
    obtain ⟨l, ls, hls⟩ := List.exists_cons_of_ne_nil (lines_ne_nil cs)
    rw [hls]
    cases ls with
    | nil => simp [consFirst, hc]
    | cons k ls =>
      have hlast : (c :: l).getLast? = some '\n' ↔ l.getLast? = some '\n' := by
        rw [List.getLast?_cons]
        cases l.getLast? <;> simp [hfeed]
      simp [consFirst, hc, hlast]

theorem feedsAndPairs_of_length (h : (lines cs).length ≤ (splitAt '\n' cs).length)
    : FeedsAndPairs cs := by
  fun_induction lines cs with
  | case1 => exact feedsAndPairs_nil
  | case2 cs ih =>
    rw [splitAt_pair] at h
    have hcs := ih (Nat.le_of_succ_le_succ h)
    have hfeed : FeedsAndPairs ('\n' :: cs) := feedsAndPairs_cons.2 ⟨fun _ => .inl rfl, hcs⟩
    exact feedsAndPairs_cons.2 ⟨fun _ => .inr ⟨rfl, rfl⟩, hfeed⟩
  | case3 c cs _ hc ih =>
    by_cases hfeed : c = '\n'
    · rw [hfeed, splitAt_feed] at h
      exact feedsAndPairs_cons.2 ⟨fun _ => .inl hfeed, ih (Nat.le_of_succ_le_succ h)⟩
    · rw [length_splitAt_cons hfeed] at h
      exact absurd h (Nat.not_le_of_gt (Nat.lt_succ_of_le (length_splitAt_le cs)))
  | case4 c cs _ hc ih =>
    have hfeed := (ne_of_not_isLineBreak hc).1
    rw [length_splitAt_cons hfeed] at h
    rw [length_consFirst c (lines_ne_nil cs)] at h
    exact feedsAndPairs_cons.2 ⟨fun hbreak => absurd hbreak hc, ih h⟩

/-- Whatever is read of a text through the one model reads the same through the other. -/
structure Model.Interchangeable (m m' : Model) : Prop where
  line? : ∀ n, m.line? n = m'.line? n
  wordAt? : ∀ p, m.wordAt? p = m'.wordAt? p
  wordUntil? : ∀ p, m.wordUntil? p = m'.wordUntil? p
  completions : ∀ (r : Registry) id p, r.completions id m p = r.completions id m' p
  hover? : ∀ (r : Registry) id p, r.hover? id m p = r.hover? id m' p

theorem Model.Interchangeable.refl (m : Model) : m.Interchangeable m :=
  ⟨fun _ => rfl, fun _ => rfl, fun _ => rfl, fun _ _ _ => rfl, fun _ _ _ => rfl⟩

end Text

namespace Document

open Text

variable {d : Document}

theorem model_eq_ofText (h : FeedsAndPairs d.text) : d.model = .ofText d.text := by
  unfold model Model.ofText line? lines
  congr 1
  funext n
  rw [← List.getElem?_map, ← List.getElem?_map]
  rw [map_content_lines h]

theorem length_lines_of_model (h : ∀ n, d.model.line? n = (Model.ofText d.text).line? n)
    : (Text.lines d.text).length ≤ (splitAt '\n' d.text).length := by
  have hend : (Model.ofText d.text).line? (splitAt '\n' d.text).length = none := by
    simp [Model.ofText]
  have hline := h (splitAt '\n' d.text).length
  rw [hend] at hline
  exact List.getElem?_eq_none_iff.1 (Option.map_eq_none_iff.1 hline)

theorem interchangeable_ofText_iff (d : Document)
    : d.model.Interchangeable (.ofText d.text) ↔ FeedsAndPairs d.text := by
  constructor
  · exact fun h => feedsAndPairs_of_length (length_lines_of_model h.line?)
  · intro h
    rw [model_eq_ofText h]
    exact Model.Interchangeable.refl _

theorem interchangeable_ofText_mixed
    : (model { text := "a\r\n\nb".toList }).Interchangeable (.ofText "a\r\n\nb".toList)
      ∧ ¬ (model { text := "a\rb".toList }).Interchangeable (.ofText "a\rb".toList) := by
  have hmixed : FeedEnds "a\r\n\nb".toList := by decide
  have halone : ¬ FeedEnds "a\rb".toList := by decide
  rw [feedEnds_iff] at hmixed halone
  exact ⟨(interchangeable_ofText_iff { text := "a\r\n\nb".toList }).2 hmixed,
    fun h => halone ((interchangeable_ofText_iff { text := "a\rb".toList }).1 h)⟩

end Document

end Workbench
