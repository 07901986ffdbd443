import Mathlib.Data.List.TakeWhile
import Workbench.Proofs.Text.Lines
import Workbench.Text.Word

/-!
Where words lie: a column cuts a line into the word characters on both sides of it and what stands around
them, so the word at the column and the part of it before the column have the characters of the line between
their columns, and the word at a column of a run of word characters is the run. In a text whose lines end in
line feeds alone, a line without its break has no break inside.
-/

namespace Workbench.Text

theorem content_of_unbroken {u : List Char} (h : Unbroken u) : content u = u := by
  cases List.eq_nil_or_concat u with
  | inl hnil =>
    rw [hnil]
    rfl
  | inr hconcat =>
    obtain ⟨v, c, rfl⟩ := hconcat
    have hc := h c (by simp)
    have hlf : c ≠ '\n' := by
      rintro rfl
      contradiction
    have hcr : c ≠ '\r' := by
      rintro rfl
      contradiction
    simp [content, dropTrailing, isFeedOrReturn, hlf, hcr]

theorem content_append {u : List Char} (h : Unbroken u) (cs : List Char)
    : content (u ++ cs) = u ++ content cs := by
  have hu := content_of_unbroken h
  unfold content dropTrailing at hu ⊢
  rw [List.reverse_append, List.dropWhile_append]
  split
  · next hempty =>
    rw [List.isEmpty_iff] at hempty
    rw [hu, hempty]
    simp
  · simp

theorem content_append_feed {u : List Char} (h : Unbroken u) : content (u ++ ['\n']) = u := by
  rw [content_append h]
  exact List.append_nil u

theorem content_append_pair {u : List Char} (h : Unbroken u) : content (u ++ ['\r', '\n']) = u := by
  rw [content_append h]
  exact List.append_nil u

theorem takeWhile_eq_iff {α : Type} {p : α → Bool} {cs w : List α}
    : cs.takeWhile p = w
        ↔ ∃ rest, cs = w ++ rest ∧ (∀ c ∈ w, p c = true) ∧ ∀ c ∈ rest.head?, p c = false := by
  constructor
  · intro h
    refine ⟨cs.dropWhile p, ?_, ?_, ?_⟩
    · rw [← h]
      rw [List.takeWhile_append_dropWhile]
    · intro c hc
      rw [← h] at hc
      exact List.mem_takeWhile_imp hc
    · intro c hc
      have hnot := List.head?_dropWhile_not p cs
      rw [Option.mem_def.1 hc] at hnot
      exact hnot
  · rintro ⟨rest, rfl, hall, hrest⟩
    rw [List.takeWhile_append_of_pos hall]
    cases rest with
    | nil => simp
    | cons c rest => simp [hrest c rfl]

theorem takeWhile_append_cons {α : Type} {p : α → Bool} {c : α} (h : p c = false) (cs rest : List α)
    : (cs ++ c :: rest).takeWhile p = cs.takeWhile p := by
  induction cs with
  | nil => simp [h]
  | cons d cs ih =>
    rw [List.cons_append]
    rw [List.takeWhile_cons, List.takeWhile_cons]
    rw [ih]

theorem takeWhile_of_length {α : Type} {p : α → Bool} {text rest : List α}
    (h : ((text ++ rest).takeWhile p).length = text.length)
    : (text ++ rest).takeWhile p = text := by
  have hprefix := List.takeWhile_prefix (l := text ++ rest) p
  rw [List.prefix_iff_eq_take.1 hprefix]
  rw [h]
  apply List.take_left

theorem run_of_length {α : Type} {p : α → Bool} {text rest : List α}
    (h : ((text ++ rest).takeWhile p).length = text.length)
    : (∀ c ∈ text, p c = true) ∧ ∀ c ∈ rest.head?, p c = false := by
  obtain ⟨rest', happend, hall, hrest⟩ := takeWhile_eq_iff.1 (takeWhile_of_length h)
  rw [← List.append_cancel_left happend] at hrest
  exact ⟨hall, hrest⟩

structure Word.LiesIn (w : Word) (line : List Char) : Prop where
  start_le : w.start ≤ w.stop
  stop_le : w.stop ≤ line.length
  text : (line.take w.stop).drop w.start = w.text

variable {line : List Char} {column : Nat} {w : Word}

theorem Word.liesIn_append (a text b : List Char)
    : LiesIn ⟨text, a.length, a.length + text.length⟩ (a ++ text ++ b) where
  start_le := Nat.le_add_right _ _
  stop_le := by simp
  text := by
    dsimp only
    rw [← List.length_append]
    rw [List.take_left]
    rw [List.drop_left]

theorem Word.LiesIn.exists_append (h : w.LiesIn line)
    : ∃ a b, line = a ++ w.text ++ b ∧ a.length = w.start ∧ w.text.length = w.stop - w.start := by
  have hlt := h.start_le
  have hle := h.stop_le
  refine ⟨(line.take w.stop).take w.start, line.drop w.stop, ?_, ?_, ?_⟩
  · rw [← h.text]
    rw [List.take_append_drop]
    rw [List.take_append_drop]
  · rw [List.length_take, List.length_take]
    omega
  · rw [← h.text]
    rw [List.length_drop, List.length_take]
    omega

/-- A line around a column: the word characters before and after the column, and what stands around them. -/
structure CutAround (line : List Char) (column : Nat) (a u v b : List Char) : Prop where
  line : line = a ++ (u ++ v) ++ b
  column : column = (a ++ u).length
  word : ∀ c ∈ u ++ v, isWordChar c = true
  before : ∀ c ∈ a.getLast?, isWordChar c = false
  after : ∀ c ∈ b.head?, isWordChar c = false

theorem exists_cutAround (h : column ≤ line.length) : ∃ a u v b, CutAround line column a u v b := by
  obtain ⟨a, hleft, hu, ha⟩ := takeWhile_eq_iff.1 (Eq.refl ((line.take column).reverse.takeWhile isWordChar))
  obtain ⟨b, hright, hv, hb⟩ := takeWhile_eq_iff.1 (Eq.refl ((line.drop column).takeWhile isWordChar))
  generalize (line.take column).reverse.takeWhile isWordChar = u at hleft hu
  generalize (line.drop column).takeWhile isWordChar = v at hright hv
  have htake : line.take column = a.reverse ++ u.reverse := by
    rw [← List.reverse_append]
    rw [← hleft]
    rw [List.reverse_reverse]
  refine ⟨a.reverse, u.reverse, v, b, ?_, ?_, ?_, ?_, hb⟩
  · have hparts := (List.take_append_drop column line).symm
    rw [htake, hright] at hparts
    simpa using hparts
  · rw [← htake]
    rw [List.length_take, Nat.min_eq_left h]
  · intro c hc
    rcases List.mem_append.1 hc with hc | hc
    · exact hu c (List.mem_reverse.1 hc)
    · exact hv c hc
  · rw [List.getLast?_reverse]
    exact ha

theorem CutAround.parts {a u v b : List Char} (h : CutAround line column a u v b)
    : line = (a ++ u) ++ (v ++ b) := by
  rw [h.line]
  simp

theorem CutAround.wordAt? {a u v b : List Char} (h : CutAround line column a u v b)
    : wordAt? line column
        = if u ++ v = [] then none else some ⟨u ++ v, a.length, a.length + (u ++ v).length⟩ := by
  have hbefore : (a ++ u).reverse.takeWhile isWordChar = u.reverse := by
    rw [takeWhile_eq_iff]
    refine ⟨a.reverse, by simp, ?_, ?_⟩
    · intro c hc
      apply h.word
      simp [List.mem_reverse.1 hc]
    · intro c hc
      apply h.before
      simpa using hc
  have hafter : (v ++ b).takeWhile isWordChar = v := by
    rw [takeWhile_eq_iff]
    refine ⟨b, rfl, ?_, h.after⟩
    intro c hc
    apply h.word
    simp [hc]
  rw [h.parts, h.column]
  unfold Text.wordAt?
  rw [List.take_left, List.drop_left]
  rw [hbefore, hafter]
  dsimp only
  rw [List.reverse_reverse]
  split
  next hnil => rw [if_pos hnil]
  next hne =>
    rw [if_neg hne]
    simp
    omega

theorem wordAt?_min (line : List Char) (column : Nat)
    : wordAt? line column = wordAt? line (min column line.length) := by
  unfold wordAt?
  rw [← List.take_eq_take_min, ← List.drop_eq_drop_min]
  rw [Nat.min_assoc, Nat.min_self]

theorem liesIn_of_wordAt? (h : wordAt? line column = some w) : w.LiesIn line := by
  rw [wordAt?_min] at h
  obtain ⟨a, u, v, b, hcut⟩ := exists_cutAround (Nat.min_le_right column line.length)
  rw [hcut.wordAt?] at h
  split at h
  · contradiction
  · cases h
    rw [hcut.line]
    exact Word.liesIn_append a (u ++ v) b

theorem liesIn_of_wordUntil? (h : wordUntil? line column = some w) : w.LiesIn line := by
  unfold wordUntil? at h
  obtain ⟨word, hword, h⟩ := Option.bind_eq_some_iff.1 h
  dsimp only at h
  split at h
  · next hlt =>
    cases h
    have hlies := liesIn_of_wordAt? hword
    constructor
    · exact Nat.le_of_lt hlt
    · exact Nat.le_trans (Nat.min_le_right _ _) hlies.stop_le
    · dsimp only
      rw [← hlies.text]
      rw [List.take_drop]
      rw [List.take_take]
      congr 2
      omega
  · contradiction

theorem wordAt?_of_run {a w b : List Char} {column : Nat} (hne : w ≠ [])
    (hword : ∀ c ∈ w, isWordChar c = true) (ha : ∀ c ∈ a.getLast?, isWordChar c = false)
    (hb : ∀ c ∈ b.head?, isWordChar c = false) (hstart : a.length ≤ column)
    (hstop : column ≤ a.length + w.length)
    : wordAt? (a ++ w ++ b) column = some ⟨w, a.length, a.length + w.length⟩ := by
  -- the column cuts the run in two
  have hcut : CutAround (a ++ w ++ b) column a (w.take (column - a.length)) (w.drop (column - a.length)) b := by
    refine ⟨?_, ?_, ?_, ha, hb⟩
    · rw [List.take_append_drop]
    · rw [List.length_append, List.length_take]
      omega
    · rw [List.take_append_drop]
      exact hword
  rw [hcut.wordAt?]
  rw [List.take_append_drop]
  rw [if_neg hne]

end Workbench.Text
