import Workbench.Text.Lines

/-!
How the lines of a text follow its parts. Two parts that are put together keep their lines, the last of
the one running on into the first of the other, unless a carriage return meets a line feed. A text has one
cut behind each of its breaks, and these are its lines.
-/

namespace Workbench.Text

def Unbroken (cs : List Char) : Prop :=
  ∀ c ∈ cs, isLineBreak c = false

def FeedsOnly (cs : List Char) : Prop :=
  ∀ c ∈ cs, isLineBreak c = true → c = '\n'

instance (cs : List Char) : Decidable (Unbroken cs) :=
  List.decidableBAll _ cs

instance (cs : List Char) : Decidable (FeedsOnly cs) :=
  List.decidableBAll _ cs

/-- One break reaches from the end of the first text into the second. -/
def Fuses (a b : List Char) : Prop :=
  a.getLast? = some '\r' ∧ b.head? = some '\n'

def IsBreak (b : List Char) : Prop :=
  b = ['\r', '\n'] ∨ ∃ c, isLineBreak c = true ∧ b = [c]

theorem unbroken_nil : Unbroken [] := by
  simp [Unbroken]

theorem unbroken_cons {c : Char} {cs : List Char}
    : Unbroken (c :: cs) ↔ isLineBreak c = false ∧ Unbroken cs := by
  simp [Unbroken]

theorem unbroken_append {a b : List Char} : Unbroken (a ++ b) ↔ Unbroken a ∧ Unbroken b := by
  simp only [Unbroken, List.mem_append]
  grind

theorem feedsOnly_append {a b : List Char} : FeedsOnly (a ++ b) ↔ FeedsOnly a ∧ FeedsOnly b := by
  simp only [FeedsOnly, List.mem_append]
  grind

theorem feedsOnly_cons {c : Char} {cs : List Char}
    : FeedsOnly (c :: cs) ↔ (isLineBreak c = true → c = '\n') ∧ FeedsOnly cs := by
  simp [FeedsOnly]

theorem feedsOnly_of_unbroken {cs : List Char} (h : Unbroken cs) : FeedsOnly cs := by
  intro c hc hb
  rw [h c hc] at hb
  contradiction

theorem fuses_cons {c : Char} {a b : List Char} (h : Fuses a b) : Fuses (c :: a) b := by
  refine ⟨?_, h.2⟩
  cases a with
  | nil => simp [Fuses] at h
  | cons => simpa using h.1

theorem not_fuses_of_feedsOnly {a b : List Char} (h : FeedsOnly a) : ¬ Fuses a b := by
  intro hf
  have hmem := List.mem_of_getLast? hf.1
  have := h _ hmem (by decide)
  contradiction

theorem not_fuses_singleton {c : Char} {b : List Char} (h : c ≠ '\r') : ¬ Fuses [c] b := by
  simp [Fuses, h]

theorem not_fuses_of_unbroken {a b : List Char} (h : Unbroken b) : ¬ Fuses a b := by
  intro hf
  have hmem := List.mem_of_mem_head? hf.2
  have := h _ hmem
  contradiction

theorem lines_crlf (cs : List Char) : lines ('\r' :: '\n' :: cs) = ['\r', '\n'] :: lines cs := by
  rw [lines]

theorem lines_cons {c : Char} {cs : List Char} (h : ¬ Fuses [c] cs)
    : lines (c :: cs) = if isLineBreak c then [c] :: lines cs else consFirst c (lines cs) := by
  rw [lines]
  rintro cs' rfl rfl
  exact h ⟨rfl, rfl⟩

theorem lines_cons_break {c : Char} {cs : List Char} (hc : isLineBreak c = true) (h : ¬ Fuses [c] cs)
    : lines (c :: cs) = [c] :: lines cs := by
  rw [lines_cons h]
  rw [if_pos hc]

theorem lines_cons_unbroken {c : Char} {cs : List Char} (hc : isLineBreak c = false)
    : lines (c :: cs) = consFirst c (lines cs) := by
  rw [lines_cons]
  · simp [hc]
  · apply not_fuses_singleton
    rintro rfl
    contradiction

theorem lines_of_unbroken {cs : List Char} (h : Unbroken cs) : lines cs = [cs] := by
  induction cs with
  | nil => rfl
  | cons c cs ih =>
    rw [unbroken_cons] at h
    rw [lines_cons_unbroken h.1]
    rw [ih h.2]
    rfl

theorem line_cases {cs l : List Char} {pre post : List (List Char)} (h : lines cs = pre ++ l :: post)
    : (post = [] ∧ Unbroken l)
      ∨ (post ≠ [] ∧ ∃ u b, l = u ++ b ∧ Unbroken u ∧ IsBreak b) := by
  fun_induction lines cs generalizing pre l with
  | case1 =>
    cases pre with
    | nil =>
      simp only [List.nil_append, List.cons.injEq] at h
      exact .inl ⟨h.2.symm, h.1 ▸ unbroken_nil⟩
    | cons => simp at h
  | case2 cs ih =>
    cases pre with
    | nil =>
      simp only [List.nil_append, List.cons.injEq] at h
      refine .inr ⟨h.2 ▸ lines_ne_nil cs, [], _, h.1.symm, unbroken_nil, .inl rfl⟩
    | cons p pre =>
      simp only [List.cons_append, List.cons.injEq] at h
      exact ih h.2
  | case3 c cs hc hb ih =>
    cases pre with
    | nil =>
      simp only [List.nil_append, List.cons.injEq] at h
      refine .inr ⟨h.2 ▸ lines_ne_nil cs, [], _, h.1.symm, unbroken_nil, .inr ⟨c, hb, rfl⟩⟩
    | cons p pre =>
      simp only [List.cons_append, List.cons.injEq] at h
      exact ih h.2
  | case4 c cs hc hb ih =>
    have hc' : isLineBreak c = false := by simpa using hb
    obtain ⟨l₀, ls₀, hl⟩ := List.exists_cons_of_ne_nil (lines_ne_nil cs)
    rw [hl] at h
    simp only [consFirst] at h
    cases pre with
    | nil =>
      simp only [List.nil_append, List.cons.injEq] at h
      obtain ⟨rfl, rfl⟩ := h
      -- The character goes in front of the first line, whatever that line ends in.
      have hfirst : lines cs = [] ++ l₀ :: ls₀ := hl
      cases ih hfirst with
      | inl hlast => exact .inl ⟨hlast.1, unbroken_cons.2 ⟨hc', hlast.2⟩⟩
      | inr hbreak =>
        obtain ⟨hne, u, b, rfl, hu, hbr⟩ := hbreak
        exact .inr ⟨hne, c :: u, b, rfl, unbroken_cons.2 ⟨hc', hu⟩, hbr⟩
    | cons p pre =>
      simp only [List.cons_append, List.cons.injEq] at h
      have hlater : lines cs = (l₀ :: pre) ++ l :: post := by
        rw [hl]
        rw [h.2]
        rfl
      exact ih hlater

theorem exists_last_line (cs : List Char) : ∃ ls u, lines cs = ls ++ [u] ∧ Unbroken u := by
  have h := (List.dropLast_concat_getLast (lines_ne_nil cs)).symm
  refine ⟨_, _, h, ?_⟩
  cases line_cases h with
  | inl hlast => exact hlast.2
  | inr hbreak => exact absurd rfl hbreak.1

theorem lines_append {a b : List Char} {ls rest : List (List Char)} {u w : List Char}
    (h : ¬ Fuses a b) (ha : lines a = ls ++ [u]) (hb : lines b = w :: rest)
    : lines (a ++ b) = ls ++ (u ++ w) :: rest := by
  fun_induction lines a generalizing ls u with
  | case1 =>
    cases ls with
    | nil => simp_all
    | cons => simp at ha
  | case2 cs ih =>
    cases ls with
    | nil => simp [lines_ne_nil] at ha
    | cons l ls =>
      simp only [List.cons_append, List.cons.injEq] at ha
      obtain ⟨rfl, ha⟩ := ha
      simp only [List.cons_append]
      rw [lines_crlf]
      rw [ih _ ha]
      exact fun hf => h (fuses_cons (fuses_cons hf))
  | case3 c cs hc hbr ih =>
    cases ls with
    | nil => simp [lines_ne_nil] at ha
    | cons l ls =>
      simp only [List.cons_append, List.cons.injEq] at ha
      obtain ⟨rfl, ha⟩ := ha
      simp only [List.cons_append]
      rw [lines_cons_break hbr]
      · rw [ih _ ha]
        exact fun hf => h (fuses_cons hf)
      · intro hf
        cases cs with
        | nil => exact h hf
        | cons d cs =>
          have hd : d = '\n' := by simpa using hf.2
          have hcr : c = '\r' := by simpa using hf.1
          exact hc cs hcr (by rw [hd])
  | case4 c cs hc hbr ih =>
    have hc' : isLineBreak c = false := by simpa using hbr
    obtain ⟨l₀, ls₀, hl⟩ := List.exists_cons_of_ne_nil (lines_ne_nil cs)
    rw [hl] at ha
    simp only [consFirst] at ha
    simp only [List.cons_append]
    rw [lines_cons_unbroken hc']
    cases ls with
    | nil =>
      simp only [List.nil_append, List.cons.injEq] at ha
      obtain ⟨rfl, rfl⟩ := ha
      have hone : lines cs = [] ++ [l₀] := hl
      rw [ih (fun hf => h (fuses_cons hf)) hone]
      rfl
    | cons l ls =>
      simp only [List.cons_append, List.cons.injEq] at ha
      obtain ⟨rfl, rfl⟩ := ha
      have hmore : lines cs = (l₀ :: ls) ++ [u] := hl
      rw [ih (fun hf => h (fuses_cons hf)) hmore]
      rfl

theorem lines_append_unbroken {a q : List Char} {ls : List (List Char)} {u : List Char}
    (ha : lines a = ls ++ [u]) (hq : Unbroken q)
    : lines (a ++ q) = ls ++ [u ++ q] := by
  apply lines_append (not_fuses_of_unbroken hq) ha
  exact lines_of_unbroken hq

theorem lines_append_break {a cs : List Char} {c : Char} {ls : List (List Char)} {u : List Char}
    (ha : lines a = ls ++ [u]) (hc : isLineBreak c = true) (hbefore : ¬ Fuses a [c])
    (hafter : ¬ Fuses [c] cs)
    : lines (a ++ c :: cs) = ls ++ (u ++ [c]) :: lines cs := by
  apply lines_append _ ha
  · exact lines_cons_break hc hafter
  · exact fun hf => hbefore ⟨hf.1, by simpa using hf.2⟩

theorem lines_append_crlf {a : List Char} {ls : List (List Char)} {u : List Char} (cs : List Char)
    (ha : lines a = ls ++ [u])
    : lines (a ++ '\r' :: '\n' :: cs) = ls ++ (u ++ ['\r', '\n']) :: lines cs := by
  apply lines_append _ ha
  · exact lines_crlf cs
  · simp [Fuses]

theorem lines_break {b : List Char} (h : IsBreak b) : lines b = [b, []] := by
  cases h with
  | inl hcrlf =>
    rw [hcrlf]
    rfl
  | inr hsingle =>
    obtain ⟨c, hc, rfl⟩ := hsingle
    rw [lines_cons_break hc]
    · rfl
    · simp [Fuses]

theorem lines_append_closed {w b cs : List Char} (hw : Unbroken w) (hb : IsBreak b)
    (h : ¬ Fuses (w ++ b) cs)
    : lines (w ++ b ++ cs) = (w ++ b) :: lines cs := by
  obtain ⟨l, ls, hl⟩ := List.exists_cons_of_ne_nil (lines_ne_nil cs)
  have hw' : lines w = [] ++ [w] := lines_of_unbroken hw
  have hclosed : lines (w ++ b) = [w ++ b] ++ [[]] := by
    apply lines_append _ hw' (lines_break hb)
    intro hf
    have := hw _ (List.mem_of_getLast? hf.1)
    contradiction
  rw [lines_append h hclosed hl]
  rw [hl]
  rfl

theorem lines_tail {cs p q : List Char} {rest : List (List Char)} (h : lines cs = p :: q :: rest)
    : lines (q :: rest).flatten = q :: rest ∧ ¬ Fuses p (q :: rest).flatten := by
  fun_induction lines cs generalizing p with
  | case1 => simp at h
  | case2 cs ih =>
    simp only [List.cons.injEq] at h
    obtain ⟨rfl, h⟩ := h
    rw [← h]
    rw [flatten_lines]
    exact ⟨rfl, by simp [Fuses]⟩
  | case3 c cs hc hb ih =>
    simp only [List.cons.injEq] at h
    obtain ⟨rfl, h⟩ := h
    rw [← h]
    rw [flatten_lines]
    refine ⟨rfl, ?_⟩
    intro hf
    -- a carriage return before a line feed is not a line of its own
    cases cs with
    | nil => simp [Fuses] at hf
    | cons d cs =>
      have hd : d = '\n' := by simpa using hf.2
      have hcr : c = '\r' := by simpa using hf.1
      exact hc cs hcr (by rw [hd])
  | case4 c cs hc hb ih =>
    obtain ⟨l₀, ls₀, hl⟩ := List.exists_cons_of_ne_nil (lines_ne_nil cs)
    rw [hl] at h
    simp only [consFirst, List.cons.injEq] at h
    obtain ⟨rfl, rfl⟩ := h
    obtain ⟨hlines, hfuse⟩ := ih hl
    refine ⟨hlines, ?_⟩
    intro hf
    cases l₀ with
    | nil =>
      have hcr : c = '\r' := by simpa using hf.1
      rw [hcr] at hb
      exact hb rfl
    | cons d l₀ => exact hfuse ⟨by simpa using hf.1, hf.2⟩

theorem lines_prefix {cs u v : List Char} {pre post : List (List Char)}
    (h : lines cs = pre ++ (u ++ v) :: post) (hu : Unbroken u)
    : lines (pre.flatten ++ u) = pre ++ [u] := by
  induction pre generalizing cs with
  | nil => simpa using lines_of_unbroken hu
  | cons p pre ih =>
    have hne : pre ++ (u ++ v) :: post ≠ [] := by simp
    obtain ⟨q, rest, hq⟩ := List.exists_cons_of_ne_nil hne
    rw [List.cons_append, hq] at h
    obtain ⟨htail, hfuse⟩ := lines_tail h
    rw [← hq] at htail hfuse
    -- the first line ends in a break, so the lines after it are those of the rest
    have hfirst : lines cs = [] ++ p :: q :: rest := h
    obtain hlast | ⟨-, w, b, rfl, hw, hb⟩ := line_cases hfirst
    · simp at hlast
    rw [List.flatten_cons, List.append_assoc]
    rw [lines_append_closed hw hb]
    · rw [ih htail]
      rfl
    · intro hf
      apply hfuse
      refine ⟨hf.1, ?_⟩
      have hsplit : (pre ++ (u ++ v) :: post).flatten = pre.flatten ++ u ++ (v ++ post.flatten) := by
        simp
      rw [hsplit]
      rw [List.head?_append]
      rw [hf.2]
      rfl

theorem line_cases_of_feedsOnly {cs l : List Char} {pre post : List (List Char)} (hcs : FeedsOnly cs)
    (h : lines cs = pre ++ l :: post)
    : (post = [] ∧ Unbroken l) ∨ (post ≠ [] ∧ ∃ u, l = u ++ ['\n'] ∧ Unbroken u) := by
  have hl : FeedsOnly l := by
    rw [← flatten_lines cs] at hcs
    rw [h] at hcs
    simp only [List.flatten_append, List.flatten_cons, feedsOnly_append] at hcs
    exact hcs.2.1
  cases line_cases h with
  | inl hlast => exact .inl hlast
  | inr hbreak =>
    obtain ⟨hne, u, b, rfl, hu, hb⟩ := hbreak
    refine .inr ⟨hne, u, ?_, hu⟩
    rw [feedsOnly_append] at hl
    cases hb with
    | inl hcrlf =>
      have := hl.2 '\r' (by simp [hcrlf]) (by decide)
      contradiction
    | inr hsingle =>
      obtain ⟨c, hc, rfl⟩ := hsingle
      rw [hl.2 c (by simp) hc]

/-- A text cut behind each of its breaks, where a carriage return and a line feed after it are one break. -/
inductive CutAtBreaks : List Char → List (List Char) → Prop
  | last {u : List Char} : Unbroken u → CutAtBreaks u [u]
  | line {u b cs : List Char} {ls : List (List Char)} : Unbroken u → IsBreak b → ¬ Fuses (u ++ b) cs →
      CutAtBreaks cs ls → CutAtBreaks (u ++ b ++ cs) ((u ++ b) :: ls)

theorem cutAtBreaks_iff {cs : List Char} {ls : List (List Char)} : CutAtBreaks cs ls ↔ ls = lines cs := by
  constructor
  · intro h
    induction h with
    | last hu => exact (lines_of_unbroken hu).symm
    | line hu hb hfuse _ ih =>
      rw [lines_append_closed hu hb hfuse]
      rw [ih]
  · intro h
    induction ls generalizing cs with
    | nil => exact absurd h.symm (lines_ne_nil cs)
    | cons l ls ih =>
      have hcs : cs = l ++ ls.flatten := by
        rw [← flatten_lines cs, ← h]
        rfl
      have hfirst : lines cs = [] ++ l :: ls := h.symm
      obtain ⟨rfl, hl⟩ | ⟨hne, u, b, rfl, hu, hb⟩ := line_cases hfirst
      · rw [List.flatten_nil, List.append_nil] at hcs
        rw [hcs]
        exact .last hl
      · obtain ⟨q, rest, hq⟩ := List.exists_cons_of_ne_nil hne
        rw [hq] at h
        obtain ⟨htail, hfuse⟩ := lines_tail h.symm
        rw [← hq] at htail hfuse
        rw [hcs]
        exact .line hu hb hfuse (ih htail.symm)

end Workbench.Text
