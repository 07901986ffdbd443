import Workbench.Proofs.Text.Words

/-!
What is read of the words of a text, against the runs of word characters in its lines. At a column that touches a
word character there is one longest run, which is the word; the part of it before the column is there if the
character before the column is one of a word. A column past the end of its line reads as the end.
-/

namespace Workbench.Text

def isWordAt (cs : List Char) (i : Nat) : Bool :=
  cs[i]?.any isWordChar

def isWordBefore (cs : List Char) : (column : Nat) → Bool
  | 0 => false
  | i + 1 => isWordAt cs i

/-- A longest run of word characters of a line: they go on neither before it nor after it. -/
structure Word.IsRun (w : Word) (line : List Char) : Prop extends w.LiesIn line where
  start_lt : w.start < w.stop
  inside : ∀ i, w.start ≤ i → i < w.stop → isWordAt line i = true
  before : isWordBefore line w.start = false
  after : isWordAt line w.stop = false

variable {line a b text u v : List Char} {i column : Nat} {w : Word}

theorem isWordAt_length (a b : List Char) : isWordAt (a ++ b) a.length = b.head?.any isWordChar := by
  unfold isWordAt
  rw [List.getElem?_append_right (Nat.le_refl _), Nat.sub_self]
  rw [List.head?_eq_getElem?]

theorem isWordBefore_length (a b : List Char)
    : isWordBefore (a ++ b) a.length = a.getLast?.any isWordChar := by
  cases List.eq_nil_or_concat a with
  | inl hnil =>
    rw [hnil]
    rfl
  | inr hconcat =>
    obtain ⟨a, c, rfl⟩ := hconcat
    rw [List.concat_eq_append, List.length_append, List.append_assoc]
    change isWordAt (a ++ ([c] ++ b)) a.length = _
    rw [isWordAt_length]
    simp

theorem isWordAt_middle (a b : List Char) (hi : i < text.length)
    : isWordAt (a ++ text ++ b) (a.length + i) = isWordChar text[i] := by
  unfold isWordAt
  rw [List.append_assoc]
  rw [List.getElem?_append_right (Nat.le_add_right _ _), Nat.add_sub_cancel_left]
  rw [List.getElem?_append_left hi, List.getElem?_eq_getElem hi]
  rfl

theorem Word.isRun_append_iff
    : IsRun ⟨text, a.length, a.length + text.length⟩ (a ++ text ++ b)
        ↔ text ≠ [] ∧ (∀ c ∈ text, isWordChar c = true)
          ∧ (∀ c ∈ a.getLast?, isWordChar c = false) ∧ ∀ c ∈ b.head?, isWordChar c = false := by
  have hbefore : isWordBefore (a ++ text ++ b) a.length = false
      ↔ ∀ c ∈ a.getLast?, isWordChar c = false := by
    rw [List.append_assoc, isWordBefore_length]
    exact Option.any_eq_false _ _
  have hafter : isWordAt (a ++ text ++ b) (a.length + text.length) = false
      ↔ ∀ c ∈ b.head?, isWordChar c = false := by
    rw [← List.length_append, isWordAt_length]
    exact Option.any_eq_false _ _
  rw [← hbefore, ← hafter]
  constructor
  · intro h
    refine ⟨?_, ?_, h.before, h.after⟩
    · rintro rfl
      exact Nat.lt_irrefl _ h.start_lt
    · intro c hc
      obtain ⟨i, hi, rfl⟩ := List.mem_iff_getElem.1 hc
      rw [← isWordAt_middle a b hi]
      exact h.inside _ (Nat.le_add_right _ _) (Nat.add_lt_add_left hi _)
  · rintro ⟨hne, hword, hbefore, hafter⟩
    refine ⟨liesIn_append a text b, ?_, ?_, hbefore, hafter⟩
    · exact Nat.lt_add_of_pos_right (List.length_pos_iff.2 hne)
    · intro i hstart hstop
      obtain ⟨k, rfl⟩ := Nat.exists_eq_add_of_le hstart
      have hk := Nat.lt_of_add_lt_add_left hstop
      rw [isWordAt_middle a b hk]
      exact hword _ (List.getElem_mem hk)

theorem Word.IsRun.exists_append (h : w.IsRun line)
    : ∃ a b, line = a ++ w.text ++ b ∧ w = ⟨w.text, a.length, a.length + w.text.length⟩ := by
  obtain ⟨a, b, hline, hstart, hlength⟩ := h.toLiesIn.exists_append
  have hstop : w.stop = a.length + w.text.length := by
    have hle := h.start_le
    omega
  refine ⟨a, b, hline, ?_⟩
  rw [← hstop, hstart]

theorem Word.IsRun.wordAt? (h : w.IsRun line) (hstart : w.start ≤ column) (hstop : column ≤ w.stop)
    : wordAt? line column = some w := by
  obtain ⟨a, b, hline, hw⟩ := h.exists_append
  generalize w.text = text at hline hw
  subst hline hw
  obtain ⟨hne, hword, hbefore, hafter⟩ := isRun_append_iff.1 h
  exact wordAt?_of_run hne hword hbefore hafter hstart hstop

namespace CutAround

theorem isWordBefore_iff (h : CutAround line column a u v b) : isWordBefore line column = true ↔ u ≠ [] := by
  rw [h.parts, h.column, isWordBefore_length]
  cases List.eq_nil_or_concat u with
  | inl hnil =>
    rw [hnil, List.append_nil]
    rw [(Option.any_eq_false _ _).2 h.before]
    simp
  | inr hconcat =>
    obtain ⟨u, c, rfl⟩ := hconcat
    have hc := h.word c (by simp)
    simp [hc]

theorem isWordAt_iff (h : CutAround line column a u v b) : isWordAt line column = true ↔ v ≠ [] := by
  rw [h.parts, h.column, isWordAt_length]
  cases v with
  | nil =>
    rw [List.nil_append]
    rw [(Option.any_eq_false _ _).2 h.after]
    simp
  | cons c v =>
    have hc := h.word c (by simp)
    simp [hc]

theorem isRun (h : CutAround line column a u v b) (hne : u ++ v ≠ [])
    : Word.IsRun ⟨u ++ v, a.length, a.length + (u ++ v).length⟩ line := by
  rw [h.line]
  exact Word.isRun_append_iff.2 ⟨hne, h.word, h.before, h.after⟩

theorem wordUntil? (h : CutAround line column a u v b)
    : wordUntil? line column = if u = [] then none else some ⟨u, a.length, column⟩ := by
  have hcolumn : column = a.length + u.length := h.column.trans List.length_append
  unfold Text.wordUntil?
  rw [h.wordAt?]
  by_cases hu : u = []
  · -- the word begins at the column, if there is one
    rw [if_pos hu]
    rw [hu, List.length_nil, Nat.add_zero] at hcolumn
    rw [hcolumn]
    split
    next => rfl
    next =>
      rw [Option.bind_some]
      dsimp only
      rw [if_neg (by omega)]
  · have hpos := List.length_pos_iff.2 hu
    have hmin : min column (a.length + (u ++ v).length) = column := by
      rw [List.length_append]
      omega
    rw [if_neg hu, if_neg (List.append_ne_nil_of_left_ne_nil hu v)]
    rw [Option.bind_some]
    dsimp only
    rw [hmin, if_pos (by omega)]
    rw [hcolumn, Nat.add_sub_cancel_left, List.take_left]

theorem drop_take (h : CutAround line column a u v b) : (line.take column).drop a.length = u := by
  rw [h.parts, h.column, List.take_left, List.drop_left]

end CutAround

theorem wordUntil?_min (line : List Char) (column : Nat)
    : wordUntil? line column = wordUntil? line (min column line.length) := by
  unfold wordUntil?
  rw [← wordAt?_min]
  apply Option.bind_congr
  intro w hw
  have hle := (liesIn_of_wordAt? hw).stop_le
  have hmin : min (min column line.length) w.stop = min column w.stop := by omega
  rw [hmin]

theorem wordAt?_eq_none_iff (h : column ≤ line.length)
    : wordAt? line column = none ↔ isWordBefore line column = false ∧ isWordAt line column = false := by
  obtain ⟨a, u, v, b, hcut⟩ := exists_cutAround h
  rw [hcut.wordAt?]
  rw [← Bool.not_eq_true, ← Bool.not_eq_true]
  rw [hcut.isWordBefore_iff, hcut.isWordAt_iff]
  simp

theorem wordAt?_eq_some_iff (h : column ≤ line.length)
    : wordAt? line column = some w ↔ w.IsRun line ∧ w.start ≤ column ∧ column ≤ w.stop := by
  constructor
  · intro hw
    obtain ⟨a, u, v, b, hcut⟩ := exists_cutAround h
    have hcolumn : column = a.length + u.length := hcut.column.trans List.length_append
    rw [hcut.wordAt?] at hw
    split at hw
    next => contradiction
    next hne =>
      cases hw
      refine ⟨hcut.isRun hne, ?_, ?_⟩
      · dsimp only
        omega
      · dsimp only
        rw [List.length_append]
        omega
  · rintro ⟨hrun, hstart, hstop⟩
    exact hrun.wordAt? hstart hstop

theorem wordUntil?_eq_none_iff (h : column ≤ line.length)
    : wordUntil? line column = none ↔ isWordBefore line column = false := by
  obtain ⟨a, u, v, b, hcut⟩ := exists_cutAround h
  rw [hcut.wordUntil?]
  rw [← Bool.not_eq_true]
  rw [hcut.isWordBefore_iff]
  simp

theorem wordUntil?_eq_some_iff {x : Word} (h : column ≤ line.length)
    : wordUntil? line column = some x
        ↔ ∃ w, wordAt? line column = some w ∧ w.start < column
          ∧ x = ⟨(line.take column).drop w.start, w.start, column⟩ := by
  obtain ⟨a, u, v, b, hcut⟩ := exists_cutAround h
  have hcolumn : column = a.length + u.length := hcut.column.trans List.length_append
  rw [hcut.wordAt?, hcut.wordUntil?]
  by_cases hu : u = []
  · have hstart : a.length = column := by
      rw [hcolumn, hu]
      rfl
    simp [hu, hstart]
  · have hlt : a.length < column := by
      have hpos := List.length_pos_iff.2 hu
      omega
    simp [hu, hlt, hcut.drop_take, eq_comm]

/--
What two answers say of the words at a column of a line: there is a word where the column touches a word character,
and the word is the one longest run that the column lies in or next to; there is a part before the column where a
word character stands there, and it is the run from its first character up to the column.
-/
structure TellsWords (line : List Char) (column : Nat) (word? part? : Option Word) : Prop where
  word_none : word? = none ↔ isWordBefore line column = false ∧ isWordAt line column = false
  word_some : ∀ w, word? = some w ↔ w.IsRun line ∧ w.start ≤ column ∧ column ≤ w.stop
  part_none : part? = none ↔ isWordBefore line column = false
  part_some : ∀ x, part? = some x
    ↔ ∃ w, word? = some w ∧ w.start < column ∧ x = ⟨(line.take column).drop w.start, w.start, column⟩

theorem tellsWords (h : column ≤ line.length)
    : TellsWords line column (wordAt? line column) (wordUntil? line column) where
  word_none := wordAt?_eq_none_iff h
  word_some _ := wordAt?_eq_some_iff h
  part_none := wordUntil?_eq_none_iff h
  part_some _ := wordUntil?_eq_some_iff h

structure Model.TellsWordsAt (m : Model) (p : Position) : Prop where
  absent : m.line? p.line = none → m.wordAt? p = none ∧ m.wordUntil? p = none
  present : ∀ line, m.line? p.line = some line →
    TellsWords line (min p.column line.length) (m.wordAt? p) (m.wordUntil? p)

theorem Model.tellsWordsAt (m : Model) (p : Position) : m.TellsWordsAt p where
  absent h := by
    unfold Model.wordAt? Model.wordUntil?
    rw [h]
    exact ⟨rfl, rfl⟩
  present line h := by
    have hword : m.wordAt? p = Text.wordAt? line (min p.column line.length) := by
      unfold Model.wordAt?
      rw [h, Option.bind_some]
      exact wordAt?_min line p.column
    have hpart : m.wordUntil? p = Text.wordUntil? line (min p.column line.length) := by
      unfold Model.wordUntil?
      rw [h, Option.bind_some]
      exact wordUntil?_min line p.column
    rw [hword, hpart]
    exact tellsWords (Nat.min_le_right _ _)

theorem Model.tellsWordsAt_raised
    : ∃ m : Model, m.line? 1 = some "π_2²  up".toList
        ∧ TellsWords "π_2²  up".toList 2 (some ⟨"π_2²".toList, 0, 4⟩) (some ⟨"π_".toList, 0, 2⟩)
        ∧ TellsWords "π_2²  up".toList 5 none none
        ∧ TellsWords "π_2²  up".toList 8 (some ⟨"up".toList, 6, 8⟩) (some ⟨"up".toList, 6, 8⟩) := by
  let m : Model := .ofText "a\nπ_2²  up".toList
  have hline : m.line? 1 = some "π_2²  up".toList := by decide
  have hinside := (m.tellsWordsAt ⟨1, 2⟩).present _ hline
  have hbetween := (m.tellsWordsAt ⟨1, 5⟩).present _ hline
  have hpast := (m.tellsWordsAt ⟨1, 99⟩).present _ hline
  exact ⟨m, hline, hinside, hbetween, hpast⟩

end Workbench.Text
