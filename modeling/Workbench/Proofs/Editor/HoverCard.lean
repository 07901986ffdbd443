import Workbench.Input.Handle

/-!
The hover card, from one key to the next. Most keys that take the caret away from the word that the card is
about also take the card away. The jumps to the ends of the line and of the text do not.
-/

namespace Workbench

def Key.jumps (key : Key) : Bool :=
  match key.code with
  | .char '0' | .home | .char '$' | .endKey | .char 'G' => true
  | .char 'g' => !key.control
  | _ => false

namespace Editor

variable {e e' : Editor} {r : Registry} {key : Key} {leaves : Prop}

def CardFits (e : Editor) (r : Registry) : Prop :=
  ∀ card, e.hover? = some card → ∃ id h, e.language? = some id
    ∧ r.hover? id e.document.model e.caret = some h ∧ card = .of h e.caret.line

def CardInNormal (e : Editor) : Prop :=
  e.hover?.isSome → e.mode = .normal

/-- What may become of the card. It is left alone with what it is about, or, if `leaves` holds, without. -/
inductive CardStep (r : Registry) (leaves : Prop) (e e' : Editor) : Prop where
  | closed : e'.hover? = none → CardStep r leaves e e'
  | asked : e.mode = .normal → e' = e.showHover r → CardStep r leaves e e'
  | kept : e'.hover? = e.hover? → e'.mode = e.mode → e'.caret = e.caret → e'.language? = e.language? →
    e'.document.model = e.document.model → CardStep r leaves e e'
  | left : leaves → e'.hover? = e.hover? → e'.mode = e.mode → CardStep r leaves e e'

theorem cardFits_of_hover? (h : e.hover? = none) : e.CardFits r := by
  intro card hcard
  rw [h] at hcard
  contradiction

theorem cardInNormal_of_hover? (h : e.hover? = none) : e.CardInNormal := by
  intro hshows
  rw [h] at hshows
  contradiction

theorem CardInNormal.hover? (h : e.CardInNormal) (hmode : e.mode ≠ .normal) : e.hover? = none := by
  rw [← Option.not_isSome_iff_eq_none]
  exact mt h hmode

theorem cardFits_showHover : (e.showHover r).CardFits r := by
  intro card hcard
  obtain ⟨h, hhover, rfl⟩ := Option.map_eq_some_iff.1 hcard
  obtain ⟨id, hid, hh⟩ := Option.bind_eq_some_iff.1 hhover
  exact ⟨id, h, hid, hh, rfl⟩

theorem CardStep.refl : CardStep r leaves e e :=
  .kept rfl rfl rfl rfl rfl

theorem CardStep.mono {p q : Prop} (hpq : p → q) (h : CardStep r p e e') : CardStep r q e e' := by
  cases h with
  | closed hnone => exact .closed hnone
  | asked hmode heq => exact .asked hmode heq
  | kept hcard hmode hcaret hlanguage hmodel => exact .kept hcard hmode hcaret hlanguage hmodel
  | left hp hcard hmode => exact .left (hpq hp) hcard hmode

theorem CardStep.cardInNormal (h : CardStep r leaves e e') (hnormal : e.CardInNormal)
    : e'.CardInNormal := by
  unfold CardInNormal at hnormal ⊢
  cases h with
  | closed hnone => exact cardInNormal_of_hover? hnone
  | asked hmode heq =>
    rw [heq]
    exact fun _ => hmode
  | kept hcard hmode =>
    rw [hcard, hmode]
    exact hnormal
  | left _ hcard hmode =>
    rw [hcard, hmode]
    exact hnormal

theorem CardStep.cardFits (h : CardStep r leaves e e') (hfits : e.CardFits r)
    (hstays : e.hover?.isSome → ¬ leaves)
    : e'.CardFits r := by
  cases h with
  | closed hnone => exact cardFits_of_hover? hnone
  | asked _ heq =>
    rw [heq]
    exact cardFits_showHover
  | kept hcard _ hcaret hlanguage hmodel =>
    unfold CardFits
    rw [hcard, hcaret, hlanguage, hmodel]
    exact hfits
  | left hleaves hcard =>
    apply cardFits_of_hover?
    rw [hcard]
    rw [← Option.not_isSome_iff_eq_none]
    exact fun hshows => hstays hshows hleaves

theorem hover?_of_map {α : Type} {o : Option α} {f : α → Editor} {card? : Option HoverPopup}
    (h : o.map f = some e') (hf : ∀ a, (f a).hover? = card?)
    : e'.hover? = card? := by
  -- Most operations end in a change of the editor that does one thing to the card.
  obtain ⟨a, -, rfl⟩ := Option.map_eq_some_iff.1 h
  exact hf a

theorem hover?_enterNormalMode? (h : e.enterNormalMode? = some e') : e'.hover? = none := by
  exact hover?_of_map h fun _ => rfl

section Normal

theorem hover?_clampColumn? (h : e.clampColumn? = some e') : e'.hover? = e.hover? ∧ e'.mode = e.mode := by
  obtain ⟨n, -, rfl⟩ := Option.map_eq_some_iff.1 h
  exact ⟨rfl, rfl⟩

theorem hover?_moveToLineEnd? (h : e.moveToLineEnd? = some e') : e'.hover? = e.hover? ∧ e'.mode = e.mode := by
  obtain ⟨n, -, rfl⟩ := Option.map_eq_some_iff.1 h
  exact ⟨rfl, rfl⟩

theorem cardStep_normalKey? (hmode : e.mode = .normal)
    (hplain : ¬ (key.control = true ∧ key.code = .char 'g')) (h : e.normalKey? r key = some e')
    : CardStep r (key.jumps = true) e e' := by
  unfold normalKey? at h
  unfold Key.jumps
  split at h
  · cases h
    exact .closed rfl
  · cases h
    exact .closed rfl
  · cases h
    exact .closed rfl
  · exact .closed (hover?_of_map h fun _ => rfl)
  · exact .closed (hover?_of_map h fun _ => rfl)
  · exact .closed (hover?_of_map h fun _ => rfl)
  · exact .closed (hover?_of_map h fun _ => rfl)
  · exact .closed (hover?_of_map h fun _ => rfl)
  · exact .closed (hover?_of_map h fun _ => rfl)
  -- the jumps are next, and of them `g` is one only without the control key, with which it does not get here
  · next hcode =>
    cases h
    rw [hcode]
    exact .left rfl rfl rfl
  · next hcode =>
    cases h
    rw [hcode]
    exact .left rfl rfl rfl
  · next hcode =>
    rw [hcode]
    exact .left rfl (hover?_moveToLineEnd? h).1 (hover?_moveToLineEnd? h).2
  · next hcode =>
    rw [hcode]
    exact .left rfl (hover?_moveToLineEnd? h).1 (hover?_moveToLineEnd? h).2
  · next hcode =>
    have hcontrol : key.control = false := by
      rw [← Bool.not_eq_true]
      exact fun hc => hplain ⟨hc, hcode⟩
    rw [hcode, hcontrol]
    exact .left rfl (hover?_clampColumn? h).1 (hover?_clampColumn? h).2
  · next hcode =>
    rw [hcode]
    exact .left rfl (hover?_clampColumn? h).1 (hover?_clampColumn? h).2
  · cases h
    exact .closed rfl
  · exact .closed (hover?_of_map h fun _ => rfl)
  · exact .closed (hover?_of_map h fun _ => rfl)
  · cases h
    exact .asked hmode rfl
  · cases h
    exact .closed rfl
  · cases h
    exact .refl

end Normal

section Insert

theorem hover?_deleteBackward? (h : e.deleteBackward? = some e')
    : e'.hover? = e.hover? ∧ e'.mode = e.mode := by
  unfold deleteBackward? at h
  split at h
  · obtain ⟨d, -, rfl⟩ := Option.map_eq_some_iff.1 h
    exact ⟨rfl, rfl⟩
  · split at h
    · obtain ⟨n, -, h⟩ := Option.bind_eq_some_iff.1 h
      obtain ⟨d, -, rfl⟩ := Option.map_eq_some_iff.1 h
      exact ⟨rfl, rfl⟩
    · cases h
      exact ⟨rfl, rfl⟩

theorem hover?_acceptCompletion? (h : e.acceptCompletion? = some e')
    : e'.hover? = e.hover? ∧ e'.mode = e.mode := by
  unfold acceptCompletion? at h
  split at h
  · cases h
    exact ⟨rfl, rfl⟩
  · dsimp only at h
    split at h
    · cases h
      exact ⟨rfl, rfl⟩
    · split at h
      · obtain ⟨d, -, rfl⟩ := Option.map_eq_some_iff.1 h
        exact ⟨rfl, rfl⟩
      · obtain ⟨d, -, h⟩ := Option.bind_eq_some_iff.1 h
        obtain ⟨d', -, rfl⟩ := Option.map_eq_some_iff.1 h
        exact ⟨rfl, rfl⟩

theorem hover?_refreshCompletion (h : e.hover? = none) : (e.refreshCompletion r).hover? = none := by
  unfold refreshCompletion
  split
  · rfl
  · exact h

theorem hover?_typingKey? (hnone : e.hover? = none) (h : e.typingKey? r key = some e')
    : e'.hover? = none := by
  unfold typingKey? at h
  generalize key.code = code at h
  cases code with
  | esc => exact hover?_enterNormalMode? h
  | tab =>
    cases h
    rfl
  | char c =>
    dsimp only at h
    split at h
    · cases h
      rfl
    · obtain ⟨m, hm, rfl⟩ := Option.map_eq_some_iff.1 h
      exact hover?_refreshCompletion ((hover?_of_map hm fun _ => rfl).trans hnone)
  | backspace =>
    obtain ⟨m, hm, rfl⟩ := Option.map_eq_some_iff.1 h
    exact hover?_refreshCompletion ((hover?_deleteBackward? hm).1.trans hnone)
  | enter => exact (hover?_of_map h fun _ => rfl).trans hnone
  | left =>
    cases h
    rfl
  | right => exact hover?_of_map h fun _ => rfl
  | up => exact hover?_of_map h fun _ => rfl
  | down => exact hover?_of_map h fun _ => rfl
  | backTab | home | endKey | delete | insert | pageUp | pageDown | function n =>
    cases h
    exact hnone

theorem hover?_insertKey? (hnone : e.hover? = none) (h : e.insertKey? r key = some e')
    : e'.hover? = none := by
  unfold insertKey? at h
  split at h
  · cases h
    exact hnone
  · cases h
    exact hnone
  · exact (hover?_acceptCompletion? h).1.trans hnone
  · exact (hover?_acceptCompletion? h).1.trans hnone
  · cases h
    exact hnone
  · exact hover?_typingKey? hnone h

end Insert

end Editor

end Workbench
