import Workbench.Proofs.Editor.HoverCard
import Workbench.Proofs.Shell.Completion

/-!
The hover card through whatever happens to the shell. It is about the word at the caret in every run in which
no jump is made while it shows, and each of the keys that jump takes the caret away from some card.
-/

namespace Workbench

def Happening.Presses (i : Happening) (key : Key) : Prop :=
  ∃ phase, phase ≠ .release ∧ i = .terminal (.key key phase)

namespace Registry

variable {r : Registry} {id : String}

theorem mem_of_find? {l : Language} (h : r.find? id = some l) : l ∈ r.languages ∧ l.id = id := by
  unfold find? at h
  refine ⟨List.mem_of_find?_eq_some h, ?_⟩
  have hid := List.find?_some h
  exact of_decide_eq_true hid

theorem exists_of_hover? {m : Text.Model} {p : Text.Position} {h : Hover} (hh : r.hover? id m p = some h)
    : ∃ l ∈ r.languages, l.id = id := by
  obtain ⟨f, hf, -⟩ := Option.bind_eq_some_iff.1 hh
  obtain ⟨l, hl, -⟩ := Option.bind_eq_some_iff.1 hf
  exact ⟨l, mem_of_find? hl⟩

theorem exists_of_languageForPath? {path : Path} (h : r.languageForPath? path = some id)
    : ∃ l ∈ r.languages, l.id = id := by
  obtain ⟨ext, -, h⟩ := Option.bind_eq_some_iff.1 h
  obtain ⟨l, hl, hid⟩ := Option.map_eq_some_iff.1 h
  exact ⟨l, List.mem_of_find?_eq_some hl, hid⟩

end Registry

namespace Shell

open Editor

variable {s s' : Shell} {key : Key} {a? : Option ShellAction} {i : Happening}
  {asked : List (HostRequest × Option HostResponse)}

def Relabels (s : Shell) (asked : List (HostRequest × Option HostResponse)) : Prop :=
  ∃ target content path id, (.writeFile target content, some (.writeOutcome (.written path))) ∈ asked
    ∧ s.registry.languageForPath? path = some id ∧ s.editor.language? ≠ some id

def LeavesCard (s : Shell) (i : Happening) : Prop :=
  (∃ key, i.Presses key ∧ key.jumps = true) ∨ s.Relabels i.exchanges

section Steps

theorem cardStep_functionsKey (key : Key) (hnone : s.editor.hover? = none) {leaves : Prop}
    : CardStep s.registry leaves s.editor (s.functionsKey key).1.editor := by
  unfold functionsKey
  split <;> exact .closed hnone

theorem hover?_toggleFocus (h : s.editor.CardInNormal) : s.toggleFocus.editor.hover? = none := by
  unfold toggleFocus
  dsimp only
  split
  · next hmode => exact h.hover? (by rw [hmode]; decide)
  · rfl

theorem cardStep_handleKey? (h : s.editor.CardInNormal) (heq : s.handleKey? key = some (s', a?))
    : CardStep s.registry (key.jumps = true) s.editor s'.editor := by
  unfold handleKey? at heq
  split at heq
  · cases heq
    exact .refl
  · split at heq
    · cases heq
      exact .closed (hover?_toggleFocus h)
    · next hplain =>
      split at heq
      · next hmode =>
        obtain ⟨e, he, heq⟩ := Option.map_eq_some_iff.1 heq
        cases heq
        exact cardStep_normalKey? hmode hplain he
      · next hmode =>
        have hnone := h.hover? (by rw [hmode]; decide)
        obtain ⟨e, he, heq⟩ := Option.map_eq_some_iff.1 heq
        cases heq
        exact .closed (hover?_insertKey? hnone he)
      · next hmode =>
        have hnone := h.hover? (by rw [hmode]; decide)
        apply CardStep.closed
        obtain ⟨cs, hread | hnormal⟩ := editor_commandKey? heq
        · rw [hread]
          exact hnone
        · exact hover?_enterNormalMode? hnormal
      · next hmode =>
        have hnone := h.hover? (by rw [hmode]; decide)
        have hkey : (s.functionsKey key).1 = s' := congrArg Prod.fst (Option.some.inj heq)
        rw [← hkey]
        exact cardStep_functionsKey key hnone

theorem cardStep_markSaved (path : Path) (hstays : ∀ id, s.registry.languageForPath? path = some id →
      s.editor.language? ≠ some id → s.Relabels asked)
    : CardStep s.registry (s.Relabels asked) s.editor
        (s.editor.markSaved path (s.registry.languageForPath? path)) := by
  by_cases hsame : (s.registry.languageForPath? path).or s.editor.language? = s.editor.language?
  · exact .kept rfl rfl rfl hsame rfl
  · cases hid : s.registry.languageForPath? path with
    | none =>
      rw [hid] at hsame
      exact absurd rfl hsame
    | some id =>
      rw [hid] at hsame
      exact .left (hstays id hid (Ne.symm hsame)) rfl rfl

theorem cardStep_perform {a : ShellAction} (h : Performed s a asked s')
    : CardStep s.registry (s.Relabels asked) s.editor s'.editor := by
  cases h with
  | newFile => exact .closed rfl
  | opened path content => exact .closed rfl
  | written path message ht =>
    apply cardStep_markSaved
    intro id hid hother
    exact ⟨_, _, path, id, List.mem_append_right _ List.mem_cons_self, hid, hother⟩
  | insertFunction =>
    unfold insertFunction
    split
    · exact .refl
    · exact .closed rfl
  | run | openCanceled | openFailed | writeFailed | targetCanceled | targetFailed | toggleTheme
  | quit =>
    exact .refl

theorem kept_handleEvent (s : Shell) (e : ShellEvent)
    : (s.handleEvent e).1.editor = s.editor ∧ (s.handleEvent e).1.registry = s.registry := by
  cases e with
  | runFinished id result =>
    unfold handleEvent finishRun
    dsimp only
    split
    · exact ⟨rfl, rfl⟩
    · split <;> exact ⟨rfl, rfl⟩
  | functionsLoaded result => cases result <;> exact ⟨rfl, rfl⟩

theorem kept_applyPing (s : Shell) (url : String) (result : Except ServiceError String)
    : (s.applyPing url result).1.editor = s.editor ∧ (s.applyPing url result).1.registry = s.registry := by
  unfold applyPing
  dsimp only
  split <;> exact ⟨rfl, rfl⟩

theorem cardStep_of_step (h : s.editor.CardInNormal) (hstep : Step s i s')
    : CardStep s.registry (s.LeavesCard i) s.editor s'.editor := by
  cases hstep with
  | terminal heq =>
    unfold handleTerminal? at heq
    split at heq
    · next key phase =>
      split at heq
      · cases heq
        exact .refl
      · next hphase =>
        have hcard := cardStep_handleKey? h heq
        exact CardStep.mono (fun hjumps => .inl ⟨key, ⟨phase, hphase, rfl⟩, hjumps⟩) hcard
    · cases heq
      exact .refl
  | action hcourse =>
    have hcard := cardStep_perform (performed_of_course hcourse)
    exact CardStep.mono .inr hcard
  | event e =>
    rw [(kept_handleEvent s e).1]
    exact .refl
  | ping url result =>
    rw [(kept_applyPing s url result).1]
    exact .refl
  | loadFunctions | fault message => exact .refl
  | draw height => exact .kept rfl rfl rfl rfl rfl

theorem registry_perform {a : ShellAction} (h : Performed s a asked s') : s'.registry = s.registry := by
  cases h with
  | insertFunction =>
    unfold insertFunction
    split <;> rfl
  | run | newFile | opened | openCanceled | openFailed | written | writeFailed | targetCanceled
  | targetFailed | toggleTheme | quit =>
    rfl

theorem registry_step (h : Step s i s') : s'.registry = s.registry := by
  cases h with
  | terminal heq =>
    rw [(keptBesides_handleTerminal? heq).1]
  | action hcourse => exact registry_perform (performed_of_course hcourse)
  | event e => exact (kept_handleEvent s e).2
  | ping url result => exact (kept_applyPing s url result).2
  | loadFunctions | fault message | draw height => rfl

end Steps

section Runs

variable {first : Shell} {past : List (Shell × Happening)}

theorem cardInNormal_of_history (hfirst : first.editor.hover? = none) (h : History Step first past s)
    : s.editor.CardInNormal := by
  apply History.invariant (P := fun t => t.editor.CardInNormal) (cardInNormal_of_hover? hfirst) _ h
  intro t i t' hnormal hstep
  exact (cardStep_of_step hnormal hstep).cardInNormal hnormal

theorem cardFits_of_history (hfirst : first.editor.hover? = none) (h : History Step first past s)
    (hpast : ∀ x ∈ past, x.1.editor.hover?.isSome → x.1.editor.CardFits x.1.registry →
      ¬ x.1.LeavesCard x.2)
    : s.editor.CardFits s.registry := by
  induction h with
  | nil => exact cardFits_of_hover? hfirst
  | @snoc past t s' i hpre hstep ih =>
    have hfits := ih fun x hx => hpast x (List.mem_append_left _ hx)
    have hstays := hpast (t, i) (List.mem_append_right _ List.mem_cons_self)
    rw [registry_step hstep]
    apply (cardStep_of_step (cardInNormal_of_history hfirst hpre) hstep).cardFits hfits
    exact fun hshows => hstays hshows hfits

theorem not_relabels_of_length (hone : s.registry.languages.length ≤ 1) (hshows : s.editor.hover?.isSome)
    (hfits : s.editor.CardFits s.registry)
    : ¬ s.Relabels asked := by
  -- Where there is one language, a document that has a card is in that language and stays in it.
  rintro ⟨target, content, path, id, -, hpath, hother⟩
  obtain ⟨card, hcard⟩ := Option.isSome_iff_exists.1 hshows
  obtain ⟨id', h, hid, hh, -⟩ := hfits card hcard
  obtain ⟨l, hl, rfl⟩ := Registry.exists_of_languageForPath? hpath
  obtain ⟨l', hl', rfl⟩ := Registry.exists_of_hover? hh
  have hlength : s.registry.languages.length = 1 := Nat.le_antisymm hone (List.length_pos_of_mem hl)
  obtain ⟨only, honly⟩ := List.length_eq_one_iff.1 hlength
  rw [honly] at hl hl'
  rw [List.mem_singleton.1 hl] at hother
  rw [List.mem_singleton.1 hl'] at hid
  exact hother hid

end Runs

section Leaving

def atWord (r : Registry) : Shell where
  registry := r
  theme := "vs-dark"
  editor := {
    document := { text := "x
  print x
x".toList }
    caret := ⟨1, 2⟩
    language? := some Language.Builtin.id }

def withCard (r : Registry) : Shell :=
  { atWord r with editor := (atWord r).editor.showHover r }

theorem history_withCard (r : Registry)
    : History Step (atWord r) [(atWord r, .terminal (.key { code := .char 'K' } .press))] (withCard r) := by
  have hkey : (atWord r).handleTerminal? (.key { code := .char 'K' } .press) = some (withCard r, none) := rfl
  exact History.nil.snoc (.terminal hkey)

def jumpCodes : List KeyCode :=
  [.char '0', .home, .char '$', .endKey, .char 'g', .char 'G']

theorem mem_jumpCodes (h : key.jumps = true) : key.code ∈ jumpCodes := by
  unfold Key.jumps at h
  unfold jumpCodes
  split at h <;> simp_all

theorem handleTerminal?_jump (hmode : s.editor.mode = .normal) (h : key.jumps = true)
    : s.handleTerminal? (.key key .press)
        = (s.editor.normalKey? s.registry { code := key.code }).map s.withEditor := by
  have hall : ∀ code ∈ jumpCodes, ∀ control, ({ code, control } : Key).globalAction? = none := by
    decide
  have haction : key.globalAction? = none := hall _ (mem_jumpCodes h) key.control
  have hplain : ¬ (key.control = true ∧ key.code = .char 'g') := by
    rintro ⟨hcontrol, hcode⟩
    unfold Key.jumps at h
    rw [hcode, hcontrol] at h
    contradiction
  unfold handleTerminal? handleKey?
  dsimp only
  rw [if_neg (by decide), haction]
  dsimp only
  rw [if_neg hplain, hmode]
  rfl

theorem not_cardFits {e : Editor} {r : Registry} (hshows : e.hover?.isSome)
    (hnone : e.language?.bind (r.hover? · e.document.model e.caret) = none)
    : ¬ e.CardFits r := by
  intro hfits
  obtain ⟨card, hcard⟩ := Option.isSome_iff_exists.1 hshows
  obtain ⟨id, h, hid, hh, -⟩ := hfits card hcard
  rw [hid, Option.bind_some, hh] at hnone
  contradiction

theorem exists_jump (h : key.jumps = true)
    : ∃ s, Step (withCard builtIn) (.terminal (.key key .press)) s
        ∧ ¬ s.editor.CardFits s.registry := by
  -- Each of the keys takes the caret to where the language has nothing to say, and the card stays.
  have hall : ∀ code ∈ jumpCodes, ((withCard builtIn).editor.normalKey? builtIn { code }).any (fun e =>
      e.hover?.isSome ∧ e.language?.bind (builtIn.hover? · e.document.model e.caret) = none) = true := by
    decide
  obtain ⟨e, he, hleft⟩ := (Option.any_eq_true _ _).1 (hall _ (mem_jumpCodes h))
  obtain ⟨hshows, hnone⟩ := of_decide_eq_true hleft
  have hkey := handleTerminal?_jump (s := withCard builtIn) rfl h
  have hregistry : (withCard builtIn).registry = builtIn := rfl
  rw [hregistry, he] at hkey
  exact ⟨_, .terminal hkey, not_cardFits hshows hnone⟩

def bilingual : Registry :=
  ⟨[Language.Builtin.language, { id := "plain", extensions := ["txt"] }]⟩

theorem exists_relabel
    : ∃ i s, Step (withCard bilingual) i s ∧ (∀ key, ¬ i.Presses key) ∧ ¬ s.editor.CardFits s.registry := by
  -- The word is in a file of the other language once the document is saved as such a file.
  refine ⟨.action .saveAs _, _, .action (.signal (.request (some (.saveTarget (.chosen "x.txt")))
    (.request (some (.writeOutcome (.written "x.txt"))) (.done _)))), ?_, ?_⟩
  · rintro key ⟨phase, -, h⟩
    contradiction
  · exact not_cardFits (by decide) (by decide)

theorem spared_of_withCard {r : Registry} {P : Shell → Happening → Prop} (h : P (withCard r) i)
    : ∀ x ∈ [(atWord r, Happening.terminal (.key { code := .char 'K' } .press))] ++ [(withCard r, i)],
        x.1.editor.hover?.isSome → P x.1 x.2 := by
  intro x hx hshows
  cases List.mem_append.1 hx with
  | inl hx =>
    -- before the first key no card shows
    rw [List.mem_singleton.1 hx] at hshows
    contradiction
  | inr hx =>
    rw [List.mem_singleton.1 hx]
    exact h

end Leaving

def Spares (banned : Key → Prop) (stays : Prop) (s : Shell) (i : Happening) : Prop :=
  (∀ key, i.Presses key → ¬ banned key)
    ∧ (stays → 1 < s.registry.languages.length → ¬ s.Relabels i.exchanges)

/--
Suppose that while a card shows some keys are banned and, perhaps, documents stay in their language. Then in all
runs from states without popups the cards are about the word at the caret, exactly if all keys that jump are
among the banned ones and documents do stay in their language.
-/
theorem cardFits_iff_banned (banned : Key → Prop) (stays : Prop)
    : (∀ first past s, first.editor.hover? = none → first.editor.completion? = none →
        History Step first past s →
        (∀ x ∈ past, x.1.editor.hover?.isSome → x.1.Spares banned stays x.2) →
        s.editor.CardFits s.registry)
      ↔ (∀ key : Key, key.jumps = true → banned key) ∧ stays := by
  constructor
  · intro hfits
    constructor
    · intro key hjumps
      apply Classical.byContradiction
      intro hallowed
      obtain ⟨s, hstep, hleft⟩ := exists_jump hjumps
      apply hleft
      apply hfits (atWord builtIn) _ s rfl rfl ((history_withCard builtIn).snoc hstep)
      apply spared_of_withCard
      constructor
      · rintro key' ⟨phase, -, hkey⟩
        cases hkey
        exact hallowed
      · intro _ hlength
        contradiction
    · apply Classical.byContradiction
      intro hleaves
      obtain ⟨i, s, hstep, hkeys, hleft⟩ := exists_relabel
      apply hleft
      apply hfits (atWord bilingual) _ s rfl rfl ((history_withCard bilingual).snoc hstep)
      apply spared_of_withCard
      constructor
      · intro key hkey
        exact absurd hkey (hkeys key)
      · intro hstays
        exact absurd hstays hleaves
  · rintro ⟨hbanned, hstays⟩ first past s hfirst - h hpast
    apply cardFits_of_history hfirst h
    intro x hx hshows hfits hleaves
    obtain ⟨hkeys, hlanguage⟩ := hpast x hx hshows
    cases hleaves with
    | inl hjump =>
      obtain ⟨key, hpress, hjumps⟩ := hjump
      exact hkeys key hpress (hbanned key hjumps)
    | inr hrelabels =>
      by_cases hlength : 1 < x.1.registry.languages.length
      · exact hlanguage hstays hlength hrelabels
      · exact not_relabels_of_length (Nat.not_lt.1 hlength) hshows hfits hrelabels

theorem cardFits_iff_banned_unbound
    : ∃ past card, History Step (atWord builtIn) past (withCard builtIn) ∧ past.length = 2
      ∧ (∀ x ∈ past, x.1.editor.hover?.isSome → x.1.Spares (·.jumps = true) True x.2)
      ∧ (withCard builtIn).editor.hover? = some card ∧ card.anchor = ⟨1, 2⟩
      ∧ (withCard builtIn).editor.CardFits builtIn := by
  have hkey : (withCard builtIn).handleTerminal? (.key { code := .function 1 } .press)
      = some (withCard builtIn, none) := rfl
  have hspares : (withCard builtIn).Spares (·.jumps = true) True
      (.terminal (.key { code := .function 1 } .press)) := by
    constructor
    · rintro key ⟨phase, -, hpress⟩
      cases hpress
      decide
    · intro _ hlength
      contradiction
  have hpast := spared_of_withCard (P := Spares (·.jumps = true) True) hspares
  have h := (history_withCard builtIn).snoc (.terminal hkey)
  obtain ⟨card, hcard, hanchor⟩ := (Option.any_eq_true _ _).1
    (by decide : (withCard builtIn).editor.hover?.any (·.anchor = ⟨1, 2⟩) = true)
  exact ⟨_, card, h, rfl, hpast, hcard, of_decide_eq_true hanchor,
    (cardFits_iff_banned _ _).2 ⟨fun _ hjumps => hjumps, trivial⟩ _ _ _ rfl rfl h hpast⟩

theorem card_left_behind
    : ∃ past s card,
      History Step (showing builtIn "vs-dark" "print hi
x".toList none (some "opencode")) past s
      ∧ s.editor.hover? = some card ∧ card.anchor = ⟨0, 0⟩ ∧ s.editor.caret = ⟨1, 0⟩
      ∧ ¬ s.editor.CardFits builtIn := by
  have hleft : ((showing builtIn "vs-dark" "print hi
x".toList none (some "opencode")).press?
      [.char 'K', .char 'G']).any (fun s => s.editor.hover?.any (·.anchor = ⟨0, 0⟩)
        ∧ s.editor.caret = ⟨1, 0⟩
        ∧ s.editor.language?.bind (builtIn.hover? · s.editor.document.model s.editor.caret) = none)
      = true := by
    decide
  obtain ⟨s, hpress, hs⟩ := (Option.any_eq_true _ _).1 hleft
  obtain ⟨hcard, hcaret, hnone⟩ := of_decide_eq_true hs
  obtain ⟨card, hcard, hanchor⟩ := (Option.any_eq_true _ _).1 hcard
  have hcodes : ∀ c, .char c ∈ ([.char 'K', .char 'G'] : List KeyCode) → Text.isLineBreak c = false := by
    simp only [List.mem_cons, KeyCode.char.injEq, List.not_mem_nil, or_false]
    rintro c (rfl | rfl) <;> decide
  obtain ⟨past, hpast, -⟩ := history_press? (fun _ => True) .nil hpress (by simp) hcodes
  exact ⟨past, s, card, hpast, hcard, of_decide_eq_true hanchor, hcaret,
    not_cardFits (by rw [hcard]; rfl) hnone⟩

end Shell

end Workbench
