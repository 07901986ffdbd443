import Mathlib.Data.List.Induction
import Workbench.Proofs.Shell.Steady

/-!
The other line breaks. From any text with one of them a few keys take the caret out of the text: the end
of the text is erased up to the last such break, and then either a line feed is typed after a carriage
return, which makes one break of the two, or the break itself is erased, which counts as a column.
-/

namespace Workbench

open Text

namespace Editor

variable {e : Editor}

def AtEnd (e : Editor) : Prop :=
  e.document.Splits e.caret e.document.text []

structure Typing (e : Editor) : Prop where
  mode : e.mode = .insert
  unlisted : e.completion? = none

theorem not_fuses_nil {a : List Char} : ¬ Fuses a [] := by
  simp [Fuses]

theorem atEnd_appendAtLineEnd? (h : e.completion? = none)
    : ∃ e₁ e₂, e.moveToLastLine? = some e₁ ∧ e₁.appendAtLineEnd? = some e₂ ∧ e₁.mode = e.mode
        ∧ e₂.Typing ∧ e₂.AtEnd ∧ e₂.text = e.text := by
  obtain ⟨ls, u, hlines, hu⟩ := exists_last_line e.document.text
  have hlast : e.document.lastLine = ls.length := by
    unfold Document.lastLine Document.lineCount Document.lines
    rw [hlines]
    simp
  have hlength : e.document.lineLength? ls.length = some u.length := by
    have hd : e.document.lines = ls ++ u :: [] := hlines
    rw [Document.lineLength?_of_lines hd]
    rw [Document.contentLength_unbroken hu]
  refine ⟨{ e with caret := (Position.mk ls.length e.caret.column).clamp u.length },
    { e with caret := ⟨ls.length, u.length⟩, mode := .insert, hover? := none }, ?_, ?_, rfl,
    ⟨rfl, h⟩, ?_, rfl⟩
  · unfold moveToLastLine? clampColumn? caretLineLength?
    dsimp only
    rw [hlast, hlength]
    rfl
  · unfold appendAtLineEnd? moveToLineEnd? caretLineLength? Position.clamp
    dsimp only
    rw [hlength]
    rfl
  · exact ⟨(List.append_nil _).symm, ls, u, hlines, rfl, rfl⟩

theorem deleteBackward?_unbroken {t : List Char} {c : Char} (h : e.AtEnd) (htext : e.text = t ++ [c])
    (hc : isLineBreak c = false)
    : ∃ e', e.deleteBackward? = some e' ∧ e'.AtEnd ∧ e'.text = t ∧ e'.mode = e.mode
        ∧ e'.completion? = e.completion? := by
  unfold AtEnd at h
  unfold text at htext
  rw [htext] at h
  obtain ⟨ls, u, hlines, -⟩ := exists_last_line t
  obtain ⟨hd, ls', u', hlines', hline, hcol⟩ := id h
  rw [lines_append_unbroken hlines (unbroken_cons.2 ⟨hc, unbroken_nil⟩)] at hlines'
  obtain ⟨rfl, hu'⟩ := List.append_inj' hlines' rfl
  cases hu'
  rw [List.length_append] at hcol
  have hdelete := deleteBackward?_inside h not_fuses_nil (by rw [hcol]; simp)
  refine ⟨_, hdelete, ⟨?_, ls, u, ?_, hline, ?_⟩, ?_, rfl, rfl⟩
  · exact (List.append_nil _).symm
  · dsimp only
    rw [List.append_nil]
    exact hlines
  · unfold Position.left
    dsimp only
    rw [hcol]
    simp
  · exact List.append_nil t

theorem deleteBackward?_break {t l : List Char} {c : Char} {ls : List (List Char)} (h : e.AtEnd)
    (htext : e.text = t ++ [c]) (hlines : lines (t ++ [c]) = ls ++ l :: [[]])
    : e.deleteBackward? = some { e with
        document := { e.document with text := t, dirty := true }
        caret := ⟨ls.length, Document.contentLength l⟩ } := by
  unfold AtEnd at h
  unfold text at htext
  rw [htext] at h
  obtain ⟨hd, ls', u, hlines', hline, hcol⟩ := id h
  rw [hlines, List.append_cons] at hlines'
  obtain ⟨rfl, hu⟩ := List.append_inj' hlines' rfl
  cases hu
  have hpred : e.caret.line - 1 = ls.length := by
    rw [hline]
    simp
  have hall : e.document.lines = ls ++ l :: [[]] := by
    unfold Document.lines
    rw [htext]
    exact hlines
  have hlength : e.document.lineLength? (e.caret.line - 1) = some (Document.contentLength l) := by
    rw [hpred]
    exact Document.lineLength?_of_lines hall
  have hdelete := deleteBackward?_start h not_fuses_nil hcol (by rw [hline]; simp) hlength
  rw [hpred, List.append_nil] at hdelete
  exact hdelete

theorem deleteBackward?_feed {t : List Char} (h : e.AtEnd) (htext : e.text = t ++ ['\n'])
    (ht : ¬ Fuses t ['\n'])
    : ∃ e', e.deleteBackward? = some e' ∧ e'.AtEnd ∧ e'.text = t ∧ e'.mode = e.mode
        ∧ e'.completion? = e.completion? := by
  obtain ⟨ls, u, hlines, hu⟩ := exists_last_line t
  have hend := lines_append_break hlines (by decide) ht not_fuses_nil
  refine ⟨_, deleteBackward?_break h htext hend, ?_, rfl, rfl, rfl⟩
  rw [Document.contentLength_feed hu]
  exact ⟨(List.append_nil _).symm, ls, u, hlines, rfl, rfl⟩

theorem insertKey?_backspace {e' : Editor} (r : Registry) (h : e.Typing)
    (hdelete : e.deleteBackward? = some e') (hmode : e'.mode = e.mode)
    (hnone : e'.completion? = e.completion?)
    : e.insertKey? r { code := .backspace } = some e' ∧ e'.Typing := by
  have htyping : e'.Typing := ⟨hmode.trans h.mode, hnone.trans h.unlisted⟩
  refine ⟨?_, htyping⟩
  unfold insertKey? typingKey?
  rw [h.unlisted]
  dsimp only
  rw [hdelete]
  unfold refreshCompletion
  rw [Option.map_some, htyping.unlisted]
  rfl

theorem insertKey?_down (r : Registry) (h : e.Typing)
    : e.insertKey? r { code := .down } = e.moveDown? := by
  unfold insertKey?
  rw [h.unlisted]
  rfl

theorem insertKey?_enter (r : Registry) (h : e.Typing)
    : e.insertKey? r { code := .enter } = e.insertNewline? := by
  unfold insertKey?
  rw [h.unlisted]
  rfl

theorem lines_return (t : List Char)
    : ∃ ls, lines (t ++ ['\r']) = ls ++ [[]] ∧ ls.length = (lines t).length := by
  obtain ⟨ls, u, hlines, -⟩ := exists_last_line t
  refine ⟨ls ++ [u ++ ['\r']], ?_, ?_⟩
  · rw [lines_append_break hlines (by decide) (by simp [Fuses]) not_fuses_nil]
    simp [lines]
  · rw [hlines]
    simp

theorem insertKey?_down_return {t : List Char} (r : Registry) (h : e.Typing)
    (htext : e.text = t ++ ['\r']) (hline : (lines t).length ≤ e.caret.line + 1)
    : ∃ e', e.insertKey? r { code := .down } = some e' ∧ e'.Typing ∧ e'.text = t ++ ['\r']
        ∧ e'.AtEnd := by
  obtain ⟨ls, hlines, hcount⟩ := lines_return t
  have hall : e.document.lines = ls ++ [] :: [] := by
    unfold Document.lines
    unfold text at htext
    rw [htext]
    exact hlines
  have hlast : e.caret.down e.document.lineCount = ⟨ls.length, e.caret.column⟩ := by
    have hall : e.document.lineCount = ls.length + 1 := by
      unfold Document.lineCount
      rw [hall]
      simp
    unfold Position.down
    rw [hall]
    have hmin : min (e.caret.line + 1) (ls.length + 1 - 1) = ls.length := by omega
    rw [hmin]
  have hlength : e.document.lineLength? ls.length = some 0 := by
    exact Document.lineLength?_of_lines hall
  refine ⟨{ e with caret := ⟨ls.length, 0⟩, hover? := none }, ?_, ⟨h.mode, h.unlisted⟩, htext, ?_⟩
  · rw [insertKey?_down r h]
    unfold moveDown? clampColumn? caretLineLength? Position.clamp
    dsimp only
    rw [hlast]
    dsimp only
    rw [hlength]
    rw [Option.map_some, Option.map_some]
    rw [Nat.min_zero]
    rfl
  · refine ⟨(List.append_nil _).symm, ls, [], ?_, rfl, rfl⟩
    unfold text at htext
    dsimp only
    rw [htext]
    exact hlines

theorem lost_after_return {t : List Char} (r : Registry) (h : e.Typing) (hend : e.AtEnd)
    (htext : e.text = t ++ ['\r'])
    : ∃ e', e.insertKey? r { code := .enter } = some e' ∧ ¬ e'.document.Holds e'.caret := by
  -- the line feed makes one break with the carriage return, and so no new line
  refine ⟨{ e with
    document := { e.document with text := e.document.text ++ ['\n'] ++ [], dirty := true }
    caret := ⟨e.caret.line + 1, 0⟩ }, ?_, ?_⟩
  · rw [insertKey?_enter r h]
    unfold insertNewline?
    rw [hend.insert? not_fuses_nil]
    rfl
  · intro hholds
    have hlt := Document.holds_line_lt hholds
    obtain ⟨-, ls, u, hlines, hline, -⟩ := hend
    obtain ⟨ls', u', hlines', -⟩ := exists_last_line t
    have hfused := lines_append_crlf [] hlines'
    unfold text at htext
    unfold Document.lineCount Document.lines at hlt
    dsimp only at hlt
    rw [htext] at hlines hlt
    obtain ⟨ls'', hreturn, hcount⟩ := lines_return t
    rw [hlines] at hreturn
    obtain ⟨rfl, -⟩ := List.append_inj' hreturn rfl
    rw [hlines'] at hcount
    have hcrlf : t ++ ['\r'] ++ ['\n'] ++ [] = t ++ '\r' :: '\n' :: [] := by simp
    rw [hcrlf, hfused] at hlt
    simp only [List.length_append, List.length_cons, List.length_nil, lines] at hlt hcount
    omega

theorem lost_after_break {t : List Char} {c : Char} (r : Registry) (h : e.Typing) (hend : e.AtEnd)
    (htext : e.text = t ++ [c]) (hc : isLineBreak c = true) (hlf : c ≠ '\n') (hcr : c ≠ '\r')
    : ∃ e', e.insertKey? r { code := .backspace } = some e' ∧ ¬ e'.document.Holds e'.caret := by
  -- the break counts as a column of the line before it, which is shorter once it is gone
  obtain ⟨ls, u, hlines, hu⟩ := exists_last_line t
  have hafter : lines (t ++ [c]) = ls ++ (u ++ [c]) :: [[]] := by
    apply lines_append_break hlines hc
    · simp [Fuses, hlf]
    · exact not_fuses_nil
  have hdelete := deleteBackward?_break hend htext hafter
  refine ⟨_, (insertKey?_backspace r h hdelete rfl rfl).1, ?_⟩
  rintro ⟨n, hn, hle⟩
  have hlength := Document.lineLength?_of_lines (d := { e.document with text := t, dirty := true }) hlines
  rw [Document.contentLength_unbroken hu] at hlength
  rw [hlength] at hn
  cases hn
  rw [Document.contentLength_concat hlf hcr] at hle
  dsimp only at hle
  omega

end Editor

namespace Shell

variable {s s' : Shell}

def press? (s : Shell) : List KeyCode → Option Shell
  | [] => some s
  | code :: codes =>
    (s.handleTerminal? (.key { code } .press)).bind fun x => x.1.press? codes

theorem press?_append (s : Shell) (ks ks' : List KeyCode)
    : s.press? (ks ++ ks') = (s.press? ks).bind (·.press? ks') := by
  induction ks generalizing s with
  | nil => rfl
  | cons k ks ih =>
    rw [List.cons_append]
    rw [press?, press?]
    cases s.handleTerminal? (.key { code := k } .press) with
    | none => rfl
    | some x => exact ih x.1

theorem press?_cons {e : Editor} {code : KeyCode} (codes : List KeyCode)
    (h : s.handleKey? { code } = some (s.withEditor e))
    : s.press? (code :: codes) = { s with editor := e }.press? codes := by
  have hkey : s.handleTerminal? (.key { code } .press) = some (s.withEditor e) := by
    unfold handleTerminal?
    dsimp only
    rw [if_neg (by decide)]
    exact h
  rw [press?]
  rw [hkey]
  rfl

theorem handleKey?_plain (s : Shell) (code : KeyCode)
    : s.handleKey? { code }
      = match s.editor.mode with
        | .normal => (s.editor.normalKey? s.registry { code }).map s.withEditor
        | .insert => (s.editor.insertKey? s.registry { code }).map s.withEditor
        | .command => s.commandKey? { code }
        | .functions => some (s.functionsKey { code }) := by
  unfold handleKey? Key.globalAction?
  rw [if_neg Bool.false_ne_true]
  dsimp only
  exact if_neg (by simp)

theorem press?_normal {e : Editor} {code : KeyCode} (codes : List KeyCode)
    (hmode : s.editor.mode = .normal) (h : s.editor.normalKey? s.registry { code } = some e)
    : s.press? (code :: codes) = { s with editor := e }.press? codes := by
  apply press?_cons
  rw [handleKey?_plain]
  rw [hmode]
  dsimp only
  rw [h]
  rfl

theorem press?_insert {e : Editor} {code : KeyCode} (codes : List KeyCode)
    (hmode : s.editor.mode = .insert) (h : s.editor.insertKey? s.registry { code } = some e)
    : s.press? (code :: codes) = { s with editor := e }.press? codes := by
  apply press?_cons
  rw [handleKey?_plain]
  rw [hmode]
  dsimp only
  rw [h]
  rfl

theorem history_press? {first : Shell} {past : List (Shell × Happening)} {codes : List KeyCode}
    (loadable : List Char → Prop) (h : History Step first past s) (hpress : s.press? codes = some s')
    (hpast : ∀ x ∈ past, x.2.Brings loadable)
    (hcodes : ∀ c, .char c ∈ codes → isLineBreak c = false)
    : ∃ past', History Step first past' s' ∧ ∀ x ∈ past', x.2.Brings loadable := by
  induction codes generalizing s past with
  | nil =>
    cases hpress
    exact ⟨past, h, hpast⟩
  | cons code codes ih =>
    rw [press?] at hpress
    obtain ⟨⟨t, a?⟩, hkey, hrest⟩ := Option.bind_eq_some_iff.1 hpress
    apply ih (h.snoc (.terminal hkey)) hrest
    · intro x hx
      cases List.mem_append.1 hx with
      | inl hx => exact hpast x hx
      | inr hx =>
        rw [List.mem_singleton.1 hx]
        intro c hc
        cases hc
        exact hcodes c List.mem_cons_self
    · exact fun c hc => hcodes c (List.mem_cons_of_mem _ hc)

theorem press?_erase {a q : List Char} {c : Char} (hq : FeedsOnly q) (h : s.editor.Typing)
    (hend : s.editor.AtEnd) (htext : s.editor.text = a ++ c :: q)
    : ∃ e, s.press? (List.replicate q.length .backspace) = some { s with editor := e } ∧ e.Typing
        ∧ e.text = a ++ [c]
        ∧ (e.AtEnd ∨ c = '\r' ∧ (lines a).length ≤ e.caret.line + 1) := by
  -- by induction from the end: the last character is no break, a line feed, or the feed of the break itself
  induction q using List.reverseRecOn generalizing s with
  | nil => exact ⟨s.editor, rfl, h, htext, .inl hend⟩
  | append_singleton q x ih =>
    rw [feedsOnly_append] at hq
    have hsplit : s.editor.text = (a ++ c :: q) ++ [x] := by
      rw [htext]
      simp
    rw [List.length_append, List.length_singleton, List.replicate_succ]
    by_cases hx : isLineBreak x = true
    · have hfeed : x = '\n' := hq.2 x (List.mem_singleton.2 rfl) hx
      rw [hfeed] at hsplit
      by_cases hfuses : Fuses (a ++ c :: q) ['\n']
      · -- The carriage return must be the last break itself, since what follows has none.
        have hnil : q = [] := by
          cases q using List.reverseRecOn with
          | nil => rfl
          | append_singleton q y =>
            have hy : y = '\r' := by
              have hlast := hfuses.1
              rw [← List.cons_append, ← List.append_assoc] at hlast
              rw [List.getLast?_concat] at hlast
              exact Option.some.inj hlast
            have := hq.1 y (by simp) (by rw [hy]; decide)
            rw [hy] at this
            contradiction
        rw [hnil] at hfuses hsplit ⊢
        have hc : c = '\r' := by simpa using hfuses.1
        obtain ⟨ls, u, hlines, hu⟩ := exists_last_line a
        have hcrlf : lines (a ++ [c] ++ ['\n']) = ls ++ (u ++ ['\r', '\n']) :: [[]] := by
          have := lines_append_crlf [] hlines
          rw [hc, List.append_assoc]
          exact this
        have hdelete := Editor.deleteBackward?_break hend hsplit hcrlf
        obtain ⟨hkey, htyping⟩ := Editor.insertKey?_backspace s.registry h hdelete rfl rfl
        refine ⟨_, press?_insert _ h.mode hkey, htyping, rfl, .inr ⟨hc, ?_⟩⟩
        rw [hlines]
        simp
      · obtain ⟨e, hdelete, hatEnd, ht, hmode, hnone⟩ :=
          Editor.deleteBackward?_feed hend hsplit hfuses
        obtain ⟨hkey, htyping⟩ := Editor.insertKey?_backspace s.registry h hdelete hmode hnone
        rw [press?_insert _ h.mode hkey]
        exact ih (s := { s with editor := e }) hq.1 htyping hatEnd ht
    · obtain ⟨e, hdelete, hatEnd, ht, hmode, hnone⟩ :=
        Editor.deleteBackward?_unbroken hend hsplit (by simpa using hx)
      obtain ⟨hkey, htyping⟩ := Editor.insertKey?_backspace s.registry h hdelete hmode hnone
      rw [press?_insert _ h.mode hkey]
      exact ih (s := { s with editor := e }) hq.1 htyping hatEnd ht

theorem exists_last_break {t : List Char} (h : ¬ FeedsOnly t)
    : ∃ a c q, t = a ++ c :: q ∧ isLineBreak c = true ∧ c ≠ '\n' ∧ FeedsOnly q := by
  induction t with
  | nil => exact absurd (feedsOnly_of_unbroken unbroken_nil) h
  | cons x t ih =>
    by_cases ht : FeedsOnly t
    · rw [feedsOnly_cons] at h
      refine ⟨[], x, t, rfl, ?_, ?_, ht⟩
      · by_contra hx
        exact h ⟨fun hb => absurd hb hx, ht⟩
      · intro hx
        exact h ⟨fun _ => hx, ht⟩
    · obtain ⟨a, c, q, rfl, hc, hlf, hq⟩ := ih ht
      exact ⟨x :: a, c, q, rfl, hc, hlf, hq⟩

theorem exists_lost_caret (hmode : s.editor.mode = .normal) (hnone : s.editor.completion? = none)
    (htext : ¬ FeedsOnly s.editor.text)
    : ∃ codes s', s.press? codes = some s' ∧ (∀ c, .char c ∈ codes → isLineBreak c = false)
        ∧ ¬ s'.editor.document.Holds s'.editor.caret := by
  obtain ⟨a, c, q, hsplit, hc, hlf, hq⟩ := exists_last_break htext
  obtain ⟨e₁, e₂, hlast, happend, hmode₁, htyping, hatEnd, ht⟩ := Editor.atEnd_appendAtLineEnd? hnone
  obtain ⟨e₃, herase, htyping₃, ht₃, hcase⟩ :=
    press?_erase (s := { s with editor := e₂ }) hq htyping hatEnd (ht.trans hsplit)
  -- first the text is erased up to its last break that is no line feed
  have hstart (codes : List KeyCode)
      : s.press? (.char 'G' :: .char 'A' :: (List.replicate q.length .backspace ++ codes))
        = { s with editor := e₃ }.press? codes := by
    have hG : s.editor.normalKey? s.registry { code := .char 'G' } = some e₁ := hlast
    have hA : e₁.normalKey? s.registry { code := .char 'A' } = some e₂ := happend
    rw [press?_normal _ hmode hG]
    rw [press?_normal (s := { s with editor := e₁ }) _ (hmode₁.trans hmode) hA]
    rw [press?_append]
    rw [herase]
    rfl
  have hplain (codes : List KeyCode) (hcodes : ∀ c, .char c ∉ codes)
      : ∀ c, .char c ∈ .char 'G' :: .char 'A' :: (List.replicate q.length .backspace ++ codes) →
        isLineBreak c = false := by
    intro c hmem
    simp only [List.mem_cons, List.mem_append, KeyCode.char.injEq] at hmem
    rcases hmem with rfl | rfl | hmem | hmem
    · decide
    · decide
    · cases List.eq_of_mem_replicate hmem
    · exact absurd hmem (hcodes c)
  -- then a carriage return is given a line feed, and any other break is erased
  by_cases hcr : c = '\r'
  · have hline : (lines a).length ≤ e₃.caret.line + 1 := by
      cases hcase with
      | inl hend =>
        obtain ⟨-, ls, u, hlines, hline, -⟩ := hend
        unfold Editor.text at ht₃
        obtain ⟨ls', hreturn, hcount⟩ := Editor.lines_return a
        rw [ht₃, hcr, hreturn] at hlines
        obtain ⟨rfl, -⟩ := List.append_inj' hlines rfl
        omega
      | inr hreturn => exact hreturn.2
    rw [hcr] at ht₃
    obtain ⟨e₄, hdown, htyping₄, ht₄, hend₄⟩ :=
      Editor.insertKey?_down_return s.registry htyping₃ ht₃ hline
    obtain ⟨e₅, henter, hlost⟩ := Editor.lost_after_return s.registry htyping₄ hend₄ ht₄
    refine ⟨_, { s with editor := e₅ }, ?_, hplain [.down, .enter] (by simp), hlost⟩
    rw [hstart]
    rw [press?_insert (s := { s with editor := e₃ }) _ htyping₃.mode hdown]
    rw [press?_insert (s := { s with editor := e₄ }) _ htyping₄.mode henter]
    rfl
  · have hend : e₃.AtEnd := by
      cases hcase with
      | inl hend => exact hend
      | inr hreturn => exact absurd hreturn.1 hcr
    obtain ⟨e₄, hback, hlost⟩ :=
      Editor.lost_after_break s.registry htyping₃ hend ht₃ hc hlf hcr
    refine ⟨_, { s with editor := e₄ }, ?_, hplain [.backspace] (by simp), hlost⟩
    rw [hstart]
    rw [press?_insert (s := { s with editor := e₃ }) _ htyping₃.mode hback]
    rfl

def showing (r : Registry) (theme : String) (text : List Char) (path? : Option Path)
    (language? : Option String) : Shell :=
  { start r theme with editor := (start r theme).editor.setDocument text path? language? }

structure Usable (loadable : List Char → Prop) (s : Shell) : Prop where
  line : s.editor.caret.line < s.editor.document.lineCount
  column : ∃ n, s.editor.document.lineLength? s.editor.caret.line = some n ∧ s.editor.caret.column ≤ n
  handled : ∀ e, (Happening.terminal e).Brings loadable → (s.handleTerminal? e).isSome
  drawn : ∀ (v : View) (rect : Rect), (v.caretCell? s.editor rect).isSome

theorem Steady.usable {loadable : List Char → Prop} (h : s.Steady)
    (hload : ∀ text, loadable text → FeedsOnly text)
    : s.Usable loadable where
  line := Document.holds_line_lt h.editor.caret
  column := h.editor.caret
  handled := by
    intro e he
    obtain ⟨t, a?, heq, -⟩ := steady_handleTerminal? h (he.mono hload)
    rw [heq]
    rfl
  drawn := View.caretCell?_isSome h.editor.caret

theorem steady_showing {r : Registry} {text : List Char} (hr : r.SuggestsLines) (theme : String)
    (htext : FeedsOnly text) (path? : Option Path) (language? : Option String)
    : (showing r theme text path? language?).Steady where
  editor := (Editor.quiet_setDocument htext path? language?).sound
  names := by simp [showing, start, FunctionPanel.names]
  registry := hr

theorem usable_iff_feedsOnly {r : Registry} (hr : r.SuggestsLines) (theme : String)
    (loadable : List Char → Prop)
    : (∀ text path? language? past s, loadable text →
        History Step (showing r theme text path? language?) past s →
        (∀ x ∈ past, x.2.Brings loadable) → s.Usable loadable)
      ↔ ∀ text, loadable text → FeedsOnly text := by
  constructor
  · intro h text htext
    by_contra hbreak
    obtain ⟨codes, s, hpress, hcodes, hlost⟩ :=
      exists_lost_caret (s := showing r theme text none none) rfl rfl hbreak
    obtain ⟨past, hpast, hbrings⟩ :=
      history_press? loadable .nil hpress (fun x hx => absurd hx List.not_mem_nil) hcodes
    exact hlost (h text none none past s htext hpast hbrings).column
  · intro h text path? language? past s htext hs hpast
    have hfirst := steady_showing hr theme (h text htext) path? language?
    have hfeeds : ∀ x ∈ past, x.2.Brings FeedsOnly := fun x hx => (hpast x hx).mono h
    exact (steady_of_history hfirst hs hfeeds).usable h

theorem suggestsLines_builtIn : builtIn.SuggestsLines := by
  have hkeywords : ∀ k ∈ Keyword.all, Unbroken k.insertText.toList := by
    decide
  intro id m p item hitem
  unfold Registry.completions at hitem
  cases hl : builtIn.find? id with
  | none =>
    rw [hl] at hitem
    cases hitem
  | some l =>
    have hmem := List.mem_of_find?_eq_some hl
    rw [List.mem_singleton.1 hmem] at hl
    rw [hl] at hitem
    obtain ⟨k, hk, rfl⟩ := List.mem_map.1 hitem
    exact hkeywords k hk

theorem usable_builtIn
    : builtIn.SuggestsLines
      ∧ (∀ text path? language? past s, text = "a\nb".toList ∨ text = welcomeText.toList →
          History Step (showing builtIn "vs-dark" text path? language?) past s →
          (∀ x ∈ past, x.2.Brings fun t => t = "a\nb".toList ∨ t = welcomeText.toList) →
          s.Usable fun t => t = "a\nb".toList ∨ t = welcomeText.toList) := by
  refine ⟨suggestsLines_builtIn, (usable_iff_feedsOnly suggestsLines_builtIn "vs-dark" _).2 ?_⟩
  rintro text (rfl | rfl)
  · decide
  · decide

theorem lost_in_crlf
    : ∃ past s, History Step (showing builtIn "vs-dark" "a\r\nb".toList none none) past s
      ∧ (∀ x ∈ past, x.2.Brings fun _ => True)
      ∧ s.editor.text = "a\r\nb".toList
      ∧ s.editor.caret = ⟨2, 0⟩
      ∧ s.editor.document.lineCount = 2
      ∧ s.handleTerminal? (.key { code := .esc } .press) = none := by
  have hlost : ((showing builtIn "vs-dark" "a\r\nb".toList none none).press?
      [.char 'j', .char 'i', .backspace, .down, .left, .enter]).any (fun s =>
        s.editor.text = "a\r\nb".toList ∧ s.editor.caret = ⟨2, 0⟩
          ∧ s.editor.document.lineCount = 2
          ∧ (s.handleTerminal? (.key { code := .esc } .press)).isNone) = true := by
    decide
  obtain ⟨s, hpress, hs⟩ := (Option.any_eq_true _ _).1 hlost
  obtain ⟨htext, hcaret, hcount, hnone⟩ := of_decide_eq_true hs
  have hcodes : ∀ c, .char c ∈ ([.char 'j', .char 'i', .backspace, .down, .left, .enter] : List KeyCode) →
      isLineBreak c = false := by
    intro c hc
    simp only [List.mem_cons, KeyCode.char.injEq] at hc
    rcases hc with rfl | rfl | hc | hc | hc | hc | hc
    · decide
    · decide
    all_goals contradiction
  obtain ⟨past, hpast, hbrings⟩ := history_press? (fun _ => True) .nil hpress
    (fun x hx => absurd hx List.not_mem_nil) hcodes
  exact ⟨past, s, hpast, hbrings, htext, hcaret, hcount, Option.isNone_iff_eq_none.1 hnone⟩

end Shell
end Workbench
