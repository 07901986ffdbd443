import Workbench.Proofs.Editor.Completion
import Workbench.Proofs.Shell.Breaks

/-!
The list of completions through whatever happens to the shell: while it is open it applies to the
text, and the key that takes an item puts the text of the item in the place of the word before the
caret.
-/

namespace Workbench

open Text

namespace Shell

variable {s s' : Shell}

theorem unlisted_enterNormalMode? {e e' : Editor} (h : e.enterNormalMode? = some e')
    : e'.completion? = none := by
  obtain ⟨e₁, -, rfl⟩ := Option.map_eq_some_iff.1 h
  rfl

theorem editor_commandKey? {key : Key} {a? : Option ShellAction}
    (h : s.commandKey? key = some (s', a?))
    : ∃ cs, s'.editor = { s.editor with commandLine := cs }
        ∨ { s.editor with commandLine := cs }.enterNormalMode? = some s'.editor := by
  unfold commandKey? at h
  dsimp only at h
  split at h
  · obtain ⟨e, he, h⟩ := Option.map_eq_some_iff.1 h
    cases h
    exact ⟨s.editor.commandLine, .inr he⟩
  · obtain ⟨e, he, h⟩ := Option.map_eq_some_iff.1 h
    refine ⟨s.editor.commandLine, .inr ?_⟩
    split at h
    · cases h
      exact he
    · cases h
      exact he
  · obtain ⟨e, he, h⟩ := Option.map_eq_some_iff.1 h
    cases h
    refine ⟨s.editor.commandLine.dropLast, ?_⟩
    split at he
    · exact .inr he
    · cases he
      exact .inl rfl
  · cases h
    exact ⟨_, .inl rfl⟩
  · cases h
    exact ⟨s.editor.commandLine, .inl rfl⟩

theorem unlisted_commandKey? {key : Key} {a? : Option ShellAction}
    (hnone : s.editor.completion? = none) (h : s.commandKey? key = some (s', a?))
    : s'.editor.completion? = none := by
  obtain ⟨cs, hread | hnormal⟩ := editor_commandKey? h
  · rw [hread]
    exact hnone
  · exact unlisted_enterNormalMode? hnormal

theorem listing_functionsKey (key : Key) (h : s.editor.Listing)
    : (s.functionsKey key).1.editor.Listing := by
  unfold functionsKey
  split <;> exact h

theorem listing_toggleFocus (h : s.editor.Listing) : s.toggleFocus.editor.Listing := by
  unfold toggleFocus
  dsimp only
  split
  · exact h.congr rfl rfl rfl
  · exact Editor.listing_of_unlisted rfl

theorem listing_handleKey? {key : Key} {a? : Option ShellAction} (hs : s.Steady)
    (h : s.editor.Listing) (heq : s.handleKey? key = some (s', a?))
    : s'.editor.Listing := by
  unfold handleKey? at heq
  split at heq
  · cases heq
    exact h
  · split at heq
    · cases heq
      exact listing_toggleFocus h
    · split at heq
      · next hmode =>
        have hquiet := hs.editor.quiet (by rw [hmode]; decide)
        obtain ⟨e, he, heq⟩ := Option.map_eq_some_iff.1 heq
        cases heq
        exact Editor.listing_of_quiet (Editor.quiet_normalKey? s.registry key hquiet) he
      · obtain ⟨e, he, heq⟩ := Option.map_eq_some_iff.1 heq
        cases heq
        exact Editor.listing_insertKey? hs.editor h he
      · next hmode =>
        have hquiet := hs.editor.quiet (by rw [hmode]; decide)
        exact Editor.listing_of_unlisted (unlisted_commandKey? hquiet.unlisted heq)
      · have hkey : (s.functionsKey key).1 = s' := congrArg Prod.fst (Option.some.inj heq)
        rw [← hkey]
        exact listing_functionsKey key h

theorem listing_perform {a : ShellAction} {asked : List (HostRequest × Option HostResponse)}
    (h : s.editor.Listing) (hp : Performed s a asked s')
    : s'.editor.Listing := by
  cases hp with
  | newFile => exact Editor.listing_of_unlisted rfl
  | opened path content => exact Editor.listing_of_unlisted rfl
  | written path message ht => exact h.congr rfl rfl rfl
  | insertFunction =>
    unfold insertFunction
    split
    · exact h
    · exact Editor.listing_of_unlisted rfl
  | run | openCanceled | openFailed | writeFailed | targetCanceled | targetFailed | toggleTheme
  | quit =>
    exact h

theorem listing_step {i : Happening} (hs : s.Steady) (h : s.editor.Listing) (hstep : Step s i s')
    : s'.editor.Listing := by
  cases hstep with
  | terminal heq =>
    unfold handleTerminal? at heq
    split at heq
    · split at heq
      · cases heq
        exact h
      · exact listing_handleKey? hs h heq
    · cases heq
      exact h
  | action hcourse => exact listing_perform h (performed_of_course hcourse)
  | event e =>
    cases e with
    | runFinished id result =>
      unfold handleEvent finishRun
      dsimp only
      split
      · exact h
      · split <;> exact h
    | functionsLoaded result => cases result <;> exact h
  | ping url result =>
    unfold applyPing
    dsimp only
    split <;> exact h
  | loadFunctions => exact h
  | fault message => exact h
  | draw height => exact h.congr rfl rfl rfl

theorem listing_of_history {first : Shell} {past : List (Shell × Happening)} (hfirst : first.Steady)
    (hnone : first.editor.completion? = none) (h : History Step first past s)
    (hpast : ∀ x ∈ past, x.2.Brings FeedsOnly)
    : s.editor.Listing := by
  induction h with
  | nil => exact Editor.listing_of_unlisted hnone
  | snoc hpre hs ih =>
    have hbefore := fun x hx => hpast x (List.mem_append_left _ hx)
    exact listing_step (steady_of_history hfirst hpre hbefore) (ih hbefore) hs

theorem handleTerminal?_accept {key : Key} {phase : KeyPhase} {popup : CompletionPopup}
    (hmode : s.editor.mode = .insert) (hp : s.editor.completion? = some popup)
    (hcode : key.code = .enter ∨ key.code = .tab) (hphase : phase ≠ .release)
    : s.handleTerminal? (.key key phase) = s.editor.acceptCompletion?.map s.withEditor := by
  have haction : key.globalAction? = none := by
    unfold Key.globalAction?
    cases hcode with
    | inl henter => simp [henter]
    | inr htab => simp [htab]
  have hplain : ¬ (key.control = true ∧ key.code = .char 'g') := by
    rintro ⟨-, hchar⟩
    rw [hchar] at hcode
    cases hcode <;> contradiction
  unfold handleTerminal? handleKey? Editor.insertKey?
  dsimp only
  rw [if_neg hphase]
  rw [haction]
  dsimp only
  rw [if_neg hplain]
  rw [hmode, hp]
  cases hcode with
  | inl henter => rw [henter]
  | inr htab => rw [htab]

/-- What there is to say while a list of completions is open: an item is selected, the list is for
the caret's line, where the word that it was made for still stands, and the key that takes the item
puts its text in the place of that word, or of nothing at the caret. -/
structure Choosing (s : Shell) (popup : CompletionPopup) : Prop where
  mode : s.editor.mode = .insert
  items : popup.items ≠ []
  selected : popup.selected < popup.items.length
  line : s.editor.caret.line = popup.anchor.line
  typed : ∀ w, popup.typed? = some w →
    ∃ line, s.editor.document.model.line? s.editor.caret.line = some line ∧ w.LiesIn line
  accepted : ∀ key phase, key.code = .enter ∨ key.code = .tab → phase ≠ .release →
    ∃ item before after s', popup.current? = some item
      ∧ s.editor.text = before ++ (popup.replaced s.editor.caret).text ++ after
      ∧ FlatText.place ⟨s.editor.text, before.length⟩
          = ⟨s.editor.caret.line, (popup.replaced s.editor.caret).start⟩
      ∧ s.handleTerminal? (.key key phase) = some (s', none)
      ∧ s'.editor.completion? = none
      ∧ s'.editor.Denotes ⟨before ++ item.insertText.toList ++ after,
          (before ++ item.insertText.toList).length⟩
      ∧ ∀ w, popup.typed? = some w →
          (Unicode.lower (String.ofList w.text)).toList <+: (Unicode.lower item.label).toList

theorem choosing_of_listing {popup : CompletionPopup} (hs : s.Steady) (h : s.editor.Listing)
    (hp : s.editor.completion? = some popup)
    : s.Choosing popup := by
  have happlies := h popup hp
  have hmode := (hs.editor.listed popup hp).1
  refine ⟨hmode, ?_, happlies.selected, happlies.line, happlies.typed, ?_⟩
  · exact List.ne_nil_of_length_pos (Nat.zero_lt_of_lt happlies.selected)
  · intro key phase hcode hphase
    obtain ⟨item, hmem, hitem⟩ := happlies.current?
    obtain ⟨before, after, e, haccept, hnone, hsplits, hafter⟩ :=
      Editor.exists_acceptCompletion? hs.editor h hp hitem
    have hfeeds := hs.editor.feeds
    rw [hsplits.1, feedsOnly_append, feedsOnly_append] at hfeeds
    have hcs : Unbroken item.insertText.toList := (hs.editor.listed popup hp).2.items item hmem
    have hkey := handleTerminal?_accept hmode hp hcode hphase
    rw [haccept] at hkey
    refine ⟨item, before, after, _, hitem, ?_, ?_, hkey, hnone, ?_, ?_⟩
    · rw [List.append_assoc]
      exact hsplits.1
    · have htext : s.editor.text = before ++ ((popup.replaced s.editor.caret).text ++ after) :=
        hsplits.1
      rw [htext]
      exact hsplits.place_eq hfeeds.1
    · apply Editor.denotes_of_splits _ hfeeds.2.2 hafter
      rw [feedsOnly_append]
      exact ⟨hfeeds.1, feedsOnly_of_unbroken hcs⟩
    · intro w hw
      exact List.isPrefixOf_iff_prefix.1 (happlies.labels w hw item hmem)

theorem choosing_of_history {text : List Char} {theme : String} {path? : Option Path}
    {language? : Option String} {past : List (Shell × Happening)} {popup : CompletionPopup}
    (htext : FeedsOnly text)
    (h : History Step (showing builtIn theme text path? language?) past s)
    (hpast : ∀ x ∈ past, x.2.Brings FeedsOnly) (hp : s.editor.completion? = some popup)
    : s.Choosing popup := by
  have hfirst := steady_showing suggestsLines_builtIn theme htext path? language?
  apply choosing_of_listing (steady_of_history hfirst h hpast) _ hp
  exact listing_of_history hfirst rfl h hpast

theorem choosing_of_history_print
    : ∃ past s popup,
      History Step (showing builtIn "vs-dark" "x p".toList none (some "opencode")) past s
      ∧ s.editor.completion? = some popup
      ∧ popup.items.map (·.label) = ["print"]
      ∧ popup.typed? = some ⟨['p'], 2, 3⟩
      ∧ s.Choosing popup := by
  have hcodes : ∀ c, .char c ∈ ([.char 'A', .tab] : List KeyCode) → isLineBreak c = false := by
    intro c hc
    simp only [List.mem_cons, KeyCode.char.injEq] at hc
    rcases hc with rfl | hc | hc
    · decide
    all_goals contradiction
  have hlisted : ((showing builtIn "vs-dark" "x p".toList none (some "opencode")).press?
      [.char 'A', .tab]).any (fun s => s.editor.completion?.any fun popup =>
        popup.items.map (·.label) = ["print"] ∧ popup.typed? = some ⟨['p'], 2, 3⟩) = true := by
    decide
  obtain ⟨s, hpress, hs⟩ := (Option.any_eq_true _ _).1 hlisted
  obtain ⟨popup, hp, hpopup⟩ := (Option.any_eq_true _ _).1 hs
  obtain ⟨hlabels, htyped⟩ := of_decide_eq_true hpopup
  obtain ⟨past, hpast, hbrings⟩ := history_press? FeedsOnly .nil hpress
    (fun x hx => absurd hx List.not_mem_nil) hcodes
  exact ⟨past, s, popup, hpast, hp, hlabels, htyped, choosing_of_history (by decide) hpast hbrings hp⟩

end Shell
end Workbench
