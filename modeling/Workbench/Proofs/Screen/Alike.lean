import Workbench.Screen.Terminal

/-!
Two terminals of one size that carry out the same commands. They know nothing of each other at first; what is
drawn on both is the same on both, wherever it was known that they draw it at the same place and in the same
way.
-/

namespace Workbench

abbrev Region := Nat → Nat → Prop

namespace Region

abbrev plus (known added : Region) : Region := fun column row =>
  known column row ∨ added column row

def strip (x y width : Nat) : Region := fun column row =>
  row = y ∧ x ≤ column ∧ column < x + width

def block (x y width height : Nat) : Region := fun column row =>
  x ≤ column ∧ column < x + width ∧ y ≤ row ∧ row < y + height

theorem plus_strip_zero (known : Region) (x y : Nat) : known.plus (strip x y 0) = known := by
  funext column row
  refine propext (or_iff_left ?_)
  rintro ⟨-, hle, hlt⟩
  omega

theorem plus_block_zero (known : Region) (x y width : Nat) : known.plus (block x y width 0) = known := by
  funext column row
  refine propext (or_iff_left ?_)
  rintro ⟨-, -, hle, hlt⟩
  omega

theorem plus_strip_strip (known : Region) (x y m n : Nat)
    : (known.plus (strip x y m)).plus (strip (x + m) y n) = known.plus (strip x y (m + n)) := by
  funext column row
  unfold strip
  grind

theorem strip_or_block {x y width height column row : Nat} (h : block x y width height column row)
    : strip x y width column row ∨ block x (y + 1) width (height - 1) column row := by
  unfold strip block at *
  omega

end Region

abbrev Pens := Pen → Pen → Prop

namespace Pens

def plain : Pens := fun p q => p.Plain ∧ q.Plain

def grounded : Pens := fun p q => p.Plain ∧ q.Plain ∧ p.background? = q.background?

def inked : Pens := fun p q => p = q ∧ p.Plain

theorem plain_of_grounded {p q : Pen} (h : grounded p q) : plain p q :=
  ⟨h.1, h.2.1⟩

theorem grounded_of_inked {p q : Pen} (h : inked p q) : grounded p q := by
  obtain ⟨rfl, hplain⟩ := h
  exact ⟨hplain, hplain, rfl⟩

theorem eq_of_inked {p q : Pen} (h : inked p q) : p = q :=
  h.1

end Pens

def Terminal.At (t : Terminal) (place : Nat × Nat) : Prop :=
  t.column = min place.1 (t.width - 1) ∧ t.row = min place.2 (t.height - 1)

/-- Two terminals of one size show the same in a region. -/
structure Alike (width height : Nat) (known : Region) (place? : Option (Nat × Nat)) (pens : Pens)
    (t₁ t₂ : Terminal) : Prop where
  size₁ : t₁.width = width ∧ t₁.height = height
  size₂ : t₂.width = width ∧ t₂.height = height
  cells : ∀ x y, x < width → y < height → known x y → t₁.cell x y = t₂.cell x y
  place : ∀ place ∈ place?, t₁.At place ∧ t₂.At place
  pens : pens t₁.pen t₂.pen

/-- From terminals that are related in one way the commands lead to terminals related in the other. -/
def Leading (R : Terminal → Terminal → Prop) (cs : List TerminalCommand) (S : Terminal → Terminal → Prop) :
    Prop :=
  ∀ t₁ t₂, R t₁ t₂ → S (t₁.execAll cs) (t₂.execAll cs)

namespace Leading

variable {R S T : Terminal → Terminal → Prop} {cs ds : List TerminalCommand} {c : TerminalCommand}

theorem nil (h : ∀ t₁ t₂, R t₁ t₂ → S t₁ t₂) : Leading R [] S :=
  h

theorem append (hcs : Leading R cs S) (hds : Leading S ds T) : Leading R (cs ++ ds) T := by
  intro t₁ t₂ h
  unfold Terminal.execAll
  rw [List.foldl_append, List.foldl_append]
  exact hds _ _ (hcs _ _ h)

theorem cons (hc : Leading R [c] S) (hcs : Leading S cs T) : Leading R (c :: cs) T :=
  append hc hcs

theorem weaken (h : Leading R cs S) (hS : ∀ t₁ t₂, S t₁ t₂ → T t₁ t₂) : Leading R cs T :=
  fun t₁ t₂ hR => hS _ _ (h t₁ t₂ hR)

theorem flatMap {α : Type} {f : α → List TerminalCommand} {as : List α}
    (h : ∀ a ∈ as, Leading R (f a) R)
    : Leading R (as.flatMap f) R := by
  induction as with
  | nil => exact nil fun _ _ h => h
  | cons a as ih =>
    rw [List.forall_mem_cons] at h
    rw [List.flatMap_cons]
    exact append h.1 (ih h.2)

theorem range {I : Nat → Terminal → Terminal → Prop} {f : Nat → List TerminalCommand} {n : Nat}
    (h : ∀ k < n, Leading (I k) (f k) (I (k + 1)))
    : Leading (I 0) ((List.range n).flatMap f) (I n) := by
  induction n with
  | zero => exact nil fun _ _ h => h
  | succ n ih =>
    rw [List.range_succ, List.flatMap_append]
    refine append (ih fun k hk => h k (Nat.lt_succ_of_lt hk)) ?_
    rw [List.flatMap_singleton]
    exact h n (Nat.lt_succ_self n)

end Leading

namespace Alike

variable {width height x y m n : Nat} {known known' : Region} {place? : Option (Nat × Nat)} {pens pens' : Pens}

theorem imp {t₁ t₂ : Terminal} (hknown : ∀ x y, x < width → y < height → known' x y → known x y)
    (hpens : ∀ p q, pens p q → pens' p q) (h : Alike width height known place? pens t₁ t₂)
    : Alike width height known' place? pens' t₁ t₂ where
  size₁ := h.size₁
  size₂ := h.size₂
  cells x y hx hy hxy := h.cells x y hx hy (hknown x y hx hy hxy)
  place := h.place
  pens := hpens _ _ h.pens

theorem mono {t₁ t₂ : Terminal} (hknown : ∀ x y, x < width → y < height → known' x y → known x y)
    (hpens : ∀ p q, pens p q → pens' p q) (h : Alike width height known place? pens t₁ t₂)
    : Alike width height known' none pens' t₁ t₂ := by
  refine { h.imp hknown hpens with place := ?_ }
  intro place hplace
  cases hplace

theorem pen {c : TerminalCommand} (f : Pen → Pen)
    (hc : ∀ t : Terminal, t.exec c = { t with pen := f t.pen })
    (hpens : ∀ p q, pens p q → pens' (f p) (f q))
    : Leading (Alike width height known place? pens) [c] (Alike width height known place? pens') := by
  intro t₁ t₂ h
  change Alike width height known place? pens' (t₁.exec c) (t₂.exec c)
  rw [hc t₁, hc t₂]
  exact ⟨h.size₁, h.size₂, h.cells, h.place, hpens _ _ h.pens⟩

theorem idle {c : TerminalCommand} (hc : ∀ t : Terminal, t.exec c = t)
    : Leading (Alike width height known place? pens) [c] (Alike width height known place? pens) := by
  intro t₁ t₂ h
  change Alike width height known place? pens (t₁.exec c) (t₂.exec c)
  rw [hc t₁, hc t₂]
  exact h

theorem moveTo (x y : Nat)
    : Leading (Alike width height known place? pens) [.moveTo x y]
        (Alike width height known (some (x, y)) pens) := by
  intro t₁ t₂ h
  refine ⟨h.size₁, h.size₂, h.cells, ?_, h.pens⟩
  intro place hplace
  cases hplace
  exact ⟨⟨rfl, rfl⟩, ⟨rfl, rfl⟩⟩

theorem put {t₁ t₂ : Terminal} (hpens : ∀ p q, pens p q → p = q) (c : Char)
    (h : Alike width height known (some (x, y)) pens t₁ t₂)
    : Alike width height (known.plus (Region.strip x y 1)) (some (x + 1, y)) pens (t₁.put c) (t₂.put c) := by
  obtain ⟨⟨hcolumn₁, hrow₁⟩, ⟨hcolumn₂, hrow₂⟩⟩ := h.place _ rfl
  obtain ⟨hwidth₁, hheight₁⟩ := h.size₁
  obtain ⟨hwidth₂, hheight₂⟩ := h.size₂
  dsimp only at hcolumn₁ hrow₁ hcolumn₂ hrow₂
  refine ⟨h.size₁, h.size₂, ?_, ?_, h.pens⟩
  · intro column row hcolumn hrow hknown
    unfold Terminal.put
    dsimp only
    rw [hcolumn₁, hrow₁, hcolumn₂, hrow₂, hwidth₁, hwidth₂, hheight₁, hheight₂]
    rw [hpens _ _ h.pens]
    split
    next => rfl
    next hne =>
      cases hknown with
      | inl hknown => exact h.cells column row hcolumn hrow hknown
      | inr hstrip =>
        unfold Region.strip at hstrip
        omega
  · intro place hplace
    cases hplace
    unfold Terminal.At Terminal.put
    dsimp only
    omega

theorem print (hpens : ∀ p q, pens p q → p = q) (text : List Char)
    : Leading (Alike width height known (some (x, y)) pens) [.print text]
        (Alike width height (known.plus (Region.strip x y text.length))
          (some (x + text.length, y)) pens) := by
  intro t₁ t₂ h
  change Alike _ _ _ _ _ (text.foldl Terminal.put t₁) (text.foldl Terminal.put t₂)
  induction text generalizing x known t₁ t₂ with
  | nil =>
    refine ⟨h.size₁, h.size₂, ?_, h.place, h.pens⟩
    intro column row hcolumn hrow hknown
    unfold Region.strip at hknown
    exact h.cells column row hcolumn hrow (hknown.resolve_right (by simp))
  | cons c text ih =>
    have hrest := ih _ _ (put hpens c h)
    rw [List.foldl_cons, List.foldl_cons, List.length_cons]
    have hplace : x + (text.length + 1) = x + 1 + text.length := by
      omega
    rw [hplace]
    refine ⟨hrest.size₁, hrest.size₂, ?_, hrest.place, hrest.pens⟩
    intro column row hcolumn hrow hknown
    apply hrest.cells column row hcolumn hrow
    unfold Region.strip at hknown ⊢
    by_cases hold : known column row
    · exact .inl (.inl hold)
    · have hstrip := hknown.resolve_left hold
      omega

theorem text (hpens : ∀ p q, pens p q → p = q) {text : List Char} (h : text.length = n)
    : Leading (Alike width height known (some (x, y)) pens) [.print text]
        (Alike width height (known.plus (Region.strip x y n)) (some (x + n, y)) pens) := by
  rw [← h]
  exact print hpens text

theorem further (hpens : ∀ p q, pens p q → p = q) {text : List Char} (h : m + text.length = n)
    : Leading (Alike width height (known.plus (Region.strip x y m)) (some (x + m, y)) pens) [.print text]
        (Alike width height (known.plus (Region.strip x y n)) (some (x + n, y)) pens) := by
  rw [← h]
  rw [← Region.plus_strip_strip]
  rw [← Nat.add_assoc]
  exact print hpens text

theorem clearLine (hpens : ∀ p q, pens p q → p.background? = q.background?)
    : Leading (Alike width height known (some (x, y)) pens) [.clearLine]
        (Alike width height (fun column row => known column row ∨ row = y) (some (x, y)) pens) := by
  intro t₁ t₂ h
  obtain ⟨⟨-, hrow₁⟩, ⟨-, hrow₂⟩⟩ := h.place _ rfl
  obtain ⟨-, hheight₁⟩ := h.size₁
  obtain ⟨-, hheight₂⟩ := h.size₂
  dsimp only at hrow₁ hrow₂
  refine ⟨h.size₁, h.size₂, ?_, h.place, h.pens⟩
  intro column row hcolumn hrow hknown
  change (if row = t₁.row then t₁.erased else t₁.cell column row)
    = if row = t₂.row then t₂.erased else t₂.cell column row
  rw [hrow₁, hrow₂, hheight₁, hheight₂]
  split
  next =>
    unfold Terminal.erased
    rw [hpens _ _ h.pens]
  next hne => exact h.cells column row hcolumn hrow (hknown.resolve_right (by omega))

theorem background (hpens : ∀ p q, pens p q → Pens.plain p q) (color : Color)
    : Leading (Alike width height known place? pens) [.background color]
        (Alike width height known place? Pens.grounded) := by
  apply pen (fun p => { p with background? := some color }) (fun _ => rfl)
  intro p q h
  exact ⟨(hpens p q h).1, (hpens p q h).2, rfl⟩

theorem background_inked (color : Color)
    : Leading (Alike width height known place? Pens.inked) [.background color]
        (Alike width height known place? Pens.inked) := by
  apply pen (fun p => { p with background? := some color }) (fun _ => rfl)
  rintro p q ⟨rfl, hplain⟩
  exact ⟨rfl, hplain⟩

theorem foreground (hpens : ∀ p q, pens p q → Pens.grounded p q) (color : Color)
    : Leading (Alike width height known place? pens) [.foreground color]
        (Alike width height known place? Pens.inked) := by
  apply pen (fun p => { p with foreground? := some color }) (fun _ => rfl)
  intro p q h
  obtain ⟨⟨hbold, hitalic, hunderlined⟩, ⟨hbold', hitalic', hunderlined'⟩, hground⟩ := hpens p q h
  refine ⟨?_, hbold, hitalic, hunderlined⟩
  rw [Pen.mk.injEq]
  exact ⟨rfl, hground, hbold.trans hbold'.symm, hitalic.trans hitalic'.symm,
    hunderlined.trans hunderlined'.symm⟩

theorem bold
    : Leading (Alike width height known place? Pens.inked) [.bold]
        (Alike width height known place? (· = ·)) := by
  apply pen (fun p => { p with bold := true }) (fun _ => rfl)
  rintro p q ⟨rfl, -⟩
  rfl

theorem resetStyle
    : Leading (Alike width height known place? pens) [.resetStyle]
        (Alike width height known place? Pens.inked) := by
  apply pen (fun _ => {}) (fun _ => rfl)
  intro p q _
  exact ⟨rfl, rfl, rfl, rfl⟩

theorem rows {f : Nat → List TerminalCommand}
    (h : ∀ (known : Region), ∀ k < n, Leading (Alike width height known none pens) (f k)
      (Alike width height (known.plus (Region.strip x (y + k) m)) none pens))
    : Leading (Alike width height known none pens) ((List.range n).flatMap f)
        (Alike width height (known.plus (Region.block x y m n)) none pens) := by
  have hstep : ∀ k < n, Leading
      (Alike width height (known.plus (Region.block x y m k)) none pens)
      (f k)
      (Alike width height (known.plus (Region.block x y m (k + 1))) none pens) := by
    intro k hk
    refine (h _ k hk).weaken fun t₁ t₂ => mono ?_ fun p q hpq => hpq
    intro column row _ _ hin
    unfold Region.block at hin ⊢
    unfold Region.strip
    grind
  intro t₁ t₂ hfirst
  apply Leading.range (I := fun k =>
    Alike width height (known.plus (Region.block x y m k)) none pens) hstep
  apply mono _ (fun p q hpq => hpq) hfirst
  intro column row _ _ hin
  unfold Region.block at hin
  exact hin.resolve_right (by omega)

end Alike

end Workbench
