import Workbench.Proofs.Editor.Flat
import Workbench.Proofs.Text.Words

/-!
The list of completions while it is open. It was made for the line of the caret, the word that it is
for still stands in that line, and one of its items is selected. So taking the item puts its text in
the place of that word and changes nothing else.
-/

namespace Workbench

open Text

namespace Document

variable {d : Document} {n : Nat} {line : List Char} {w : Word}

theorem exists_lines_of_model (hd : FeedsOnly d.text) (h : d.model.line? n = some line)
    : Unbroken line ∧ ∃ pre tail post, d.lines = pre ++ (line ++ tail) :: post ∧ pre.length = n := by
  obtain ⟨l, hl, rfl⟩ := Option.map_eq_some_iff.1 h
  obtain ⟨pre, post, hlines, hn⟩ := exists_lines_of_line? hl
  cases line_cases_of_feedsOnly hd hlines with
  | inl hlast =>
    rw [content_of_unbroken hlast.2]
    refine ⟨hlast.2, pre, [], post, ?_, hn⟩
    rw [List.append_nil]
    exact hlines
  | inr hfeed =>
    obtain ⟨-, u, rfl, hu⟩ := hfeed
    rw [content_append_feed hu]
    exact ⟨hu, pre, ['\n'], post, hlines, hn⟩

theorem Splits.exists_insert? {p : Position} {before after cs : List Char}
    (h : d.Splits p before after) (hf : ¬ Fuses before after) (hcs : Unbroken cs)
    : ∃ d', d.insert? p.line p.column cs = some d'
      ∧ d'.Splits ⟨p.line, p.column + cs.length⟩ (before ++ cs) after := by
  refine ⟨_, h.insert? hf cs, ?_⟩
  apply h.extend hcs
  rfl

theorem exists_splits_word (hd : FeedsOnly d.text) (hline : d.model.line? n = some line)
    (hw : w.LiesIn line)
    : ∃ before after, d.Splits ⟨n, w.start⟩ before (w.text ++ after)
      ∧ w.text.length = w.stop - w.start := by
  obtain ⟨hunbroken, pre, tail, post, hlines, rfl⟩ := exists_lines_of_model hd hline
  obtain ⟨a, b, rfl, ha, hlength⟩ := hw.exists_append
  rw [List.append_assoc, List.append_assoc] at hlines
  rw [List.append_assoc, unbroken_append] at hunbroken
  have hsplits := splits_of_lines hlines hunbroken.1
  rw [ha, List.append_assoc] at hsplits
  exact ⟨_, _, hsplits, hlength⟩

end Document

namespace CompletionPopup

/-- The word that the selected item takes the place of: the one that was typed, or none at the
caret. -/
def replaced (popup : CompletionPopup) (caret : Position) : Word :=
  popup.typed?.getD ⟨[], caret.column, caret.column⟩

/-- An item is selected, and the word that all items begin with stands in the caret's line. -/
structure Applies (popup : CompletionPopup) (d : Document) (caret : Position) : Prop where
  selected : popup.selected < popup.items.length
  line : caret.line = popup.anchor.line
  typed : ∀ w, popup.typed? = some w → ∃ line, d.model.line? caret.line = some line ∧ w.LiesIn line
  labels : ∀ w, popup.typed? = some w → ∀ item ∈ popup.items, labelMatches w.text item = true

variable {popup : CompletionPopup} {d d' : Document} {p q : Position}

theorem Applies.congr (h : popup.Applies d p) (htext : d'.text = d.text) (hline : q.line = p.line)
    : popup.Applies d' q where
  selected := h.selected
  line := hline.trans h.line
  typed := by
    intro w hw
    have hmodel : d'.model = d.model := by
      unfold Document.model Document.line? Document.lines
      rw [htext]
    rw [hmodel, hline]
    exact h.typed w hw
  labels := h.labels

theorem Applies.selectNext (h : popup.Applies d p) : popup.selectNext.Applies d p where
  selected := Nat.mod_lt _ (Nat.zero_lt_of_lt h.selected)
  line := h.line
  typed := h.typed
  labels := h.labels

theorem Applies.selectPrevious (h : popup.Applies d p) : popup.selectPrevious.Applies d p where
  selected := by
    have := h.selected
    unfold CompletionPopup.selectPrevious
    dsimp only
    split <;> omega
  line := h.line
  typed := h.typed
  labels := h.labels

theorem applies_of_filtered? {items : List CompletionItem} {typed? : Option Word}
    (h : filtered? items typed? p = some popup)
    (htyped : ∀ w, typed? = some w → ∃ line, d.model.line? p.line = some line ∧ w.LiesIn line)
    : popup.Applies d p := by
  cases typed? with
  | none =>
    unfold filtered? at h
    dsimp only at h
    split at h
    · contradiction
    · next hne =>
      cases h
      rw [List.isEmpty_iff] at hne
      exact ⟨List.length_pos_iff.2 hne, rfl, htyped, by simp⟩
  | some w =>
    unfold filtered? at h
    dsimp only at h
    split at h
    · contradiction
    · next hne =>
      cases h
      rw [List.isEmpty_iff] at hne
      refine ⟨List.length_pos_iff.2 hne, rfl, htyped, ?_⟩
      intro w hw item hitem
      cases hw
      exact (List.mem_filter.1 hitem).2

theorem Applies.current? (h : popup.Applies d p)
    : ∃ item ∈ popup.items, popup.current? = some item := by
  have hlt := h.selected
  exact ⟨popup.items[popup.selected], List.getElem_mem _, List.getElem?_eq_getElem hlt⟩

end CompletionPopup

namespace Editor

def Listing (e : Editor) : Prop :=
  ∀ popup, e.completion? = some popup → popup.Applies e.document e.caret

variable {e e' : Editor}

theorem listing_of_unlisted (h : e.completion? = none) : e.Listing := by
  intro popup hp
  rw [h] at hp
  contradiction

theorem Listing.congr (h : e.Listing) (hp : e'.completion? = e.completion?) (htext : e'.text = e.text)
    (hline : e'.caret.line = e.caret.line)
    : e'.Listing := by
  intro popup hpopup
  rw [hp] at hpopup
  exact (h popup hpopup).congr htext hline

theorem listing_triggerCompletion (e : Editor) (r : Registry) : (e.triggerCompletion r).Listing := by
  intro popup hp
  obtain ⟨language, -, hp⟩ := Option.bind_eq_some_iff.1 hp
  apply CompletionPopup.applies_of_filtered? hp
  intro w hw
  obtain ⟨line, hline, hw⟩ := Option.bind_eq_some_iff.1 hw
  exact ⟨line, hline, liesIn_of_wordUntil? hw⟩

theorem listing_refreshCompletion (e : Editor) (r : Registry) : (e.refreshCompletion r).Listing := by
  unfold refreshCompletion
  split
  · exact listing_triggerCompletion e r
  · next hnone =>
    apply listing_of_unlisted
    simpa using hnone

theorem listing_of_quiet {o : Option Editor} (hquiet : ∃ e₁, o = some e₁ ∧ e₁.Quiet)
    (heq : o = some e')
    : e'.Listing := by
  obtain ⟨e₁, heq₁, h⟩ := hquiet
  rw [heq] at heq₁
  cases heq₁
  exact listing_of_unlisted h.unlisted

theorem listing_typingKey? {r : Registry} {key : Key} (hs : e.Sound) (h : e.Listing)
    (hquiet : key.code = .enter ∨ key.code = .up ∨ key.code = .down → e.completion? = none)
    (heq : e.typingKey? r key = some e')
    : e'.Listing := by
  unfold typingKey? at heq
  generalize key.code = code at hquiet heq
  cases code with
  | esc => exact listing_of_quiet (quiet_enterNormalMode? hs.toPlaced) heq
  | tab =>
    cases heq
    exact listing_triggerCompletion e r
  | char c =>
    dsimp only at heq
    split at heq
    · cases heq
      exact listing_triggerCompletion e r
    · obtain ⟨e₁, -, rfl⟩ := Option.map_eq_some_iff.1 heq
      exact listing_refreshCompletion e₁ r
  | backspace =>
    obtain ⟨e₁, -, rfl⟩ := Option.map_eq_some_iff.1 heq
    exact listing_refreshCompletion e₁ r
  | enter => exact listing_of_quiet (quiet_insertNewline? ⟨hs.toPlaced, hquiet (.inl rfl)⟩) heq
  | left =>
    cases heq
    exact h.congr rfl rfl rfl
  | right =>
    obtain ⟨n, -, rfl⟩ := Option.map_eq_some_iff.1 heq
    exact h.congr rfl rfl rfl
  | up => exact listing_of_quiet (quiet_moveUp? ⟨hs.toPlaced, hquiet (.inr (.inl rfl))⟩) heq
  | down => exact listing_of_quiet (quiet_moveDown? ⟨hs.toPlaced, hquiet (.inr (.inr rfl))⟩) heq
  | backTab | home | endKey | delete | insert | pageUp | pageDown | function n =>
    cases heq
    exact h

theorem listing_insertKey? {r : Registry} {key : Key} (hs : e.Sound) (h : e.Listing)
    (heq : e.insertKey? r key = some e')
    : e'.Listing := by
  unfold insertKey? at heq
  cases hp : e.completion? with
  | none =>
    rw [hp] at heq
    exact listing_typingKey? hs h (fun _ => hp) heq
  | some popup =>
    rw [hp] at heq
    have happlies := h popup hp
    cases hcode : key.code with
    | up =>
      rw [hcode] at heq
      cases heq
      intro other hother
      cases hother
      exact happlies.selectPrevious
    | down =>
      rw [hcode] at heq
      cases heq
      intro other hother
      cases hother
      exact happlies.selectNext
    | enter | tab =>
      rw [hcode] at heq
      exact listing_of_quiet (quiet_acceptCompletion? hs) heq
    | esc =>
      rw [hcode] at heq
      cases heq
      exact listing_of_unlisted rfl
    | char | backspace | backTab | left | right | home | endKey | delete | insert | pageUp
    | pageDown | function =>
      rw [hcode] at heq
      exact listing_typingKey? hs h (by simp [hcode]) heq

theorem exists_acceptCompletion? {popup : CompletionPopup} {item : CompletionItem} (hs : e.Sound)
    (h : e.Listing) (hp : e.completion? = some popup) (hitem : popup.current? = some item)
    : ∃ before after e', e.acceptCompletion? = some e' ∧ e'.completion? = none
      ∧ e.document.Splits ⟨e.caret.line, (popup.replaced e.caret).start⟩ before
          ((popup.replaced e.caret).text ++ after)
      ∧ e'.document.Splits e'.caret (before ++ item.insertText.toList) after := by
  have hcs : Unbroken item.insertText.toList :=
    (hs.listed popup hp).2.items item (List.mem_of_getElem? hitem)
  unfold acceptCompletion? CompletionPopup.replaced
  rw [hp]
  dsimp only
  rw [hitem]
  dsimp only
  cases hw : popup.typed? with
  | none =>
    obtain ⟨before, after, hsplits, hb, -⟩ := hs.toPlaced.splits
    obtain ⟨d, hinsert, hd⟩ := hsplits.exists_insert? (not_fuses_of_feedsOnly hb) hcs
    dsimp only
    rw [hinsert]
    refine ⟨before, after, _, rfl, rfl, hsplits, ?_⟩
    rw [← String.length_toList]
    exact hd
  | some w =>
    obtain ⟨line, hline, hlies⟩ := (h popup hp).typed w hw
    obtain ⟨before, after, hsplits, hlength⟩ := Document.exists_splits_word hs.feeds hline hlies
    have hb : FeedsOnly before := by
      have hfeeds := hs.feeds
      rw [hsplits.1] at hfeeds
      exact (feedsOnly_append.1 hfeeds).1
    obtain ⟨d₁, hdelete, htext⟩ := hsplits.deleteRange? (not_fuses_of_feedsOnly hb) hlength
    have hcut : d₁.Splits ⟨e.caret.line, w.start⟩ before after := ⟨htext, hsplits.2⟩
    obtain ⟨d₂, hinsert, hd₂⟩ := hcut.exists_insert? (not_fuses_of_feedsOnly hb) hcs
    dsimp only at hdelete hinsert ⊢
    rw [hdelete, Option.bind_some]
    rw [hinsert]
    refine ⟨before, after, _, rfl, rfl, hsplits, ?_⟩
    rw [← String.length_toList]
    exact hd₂

end Editor
end Workbench
