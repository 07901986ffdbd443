import Mathlib.Tactic.SplitIfs
import Workbench.Json.Value

/-!
The ways to write a JSON value: between its parts blanks may stand, and a string may be written with escapes
where it needs none. Each relation goes from a text to what is left of it after the part. The text that a value
is rendered to is one of its texts.
-/

namespace Workbench.Json

inductive Blanks : List Char → List Char → Prop where
  | done {cs : List Char} : Blanks cs cs
  | more {c : Char} {cs rest : List Char} (hc : c ∈ [' ', '\n', '\t', '\r']) (h : Blanks cs rest)
      : Blanks (c :: cs) rest

def SpellsDigit (n : Nat) (c : Char) : Prop :=
  n < 16 ∧ (c = n.digitChar ∨ c = n.digitChar.toUpper)

inductive SpellsUnit : Nat → List Char → List Char → Prop where
  | digits {n₁ n₂ n₃ n₄ : Nat} {c₁ c₂ c₃ c₄ : Char} {rest : List Char} (h₁ : SpellsDigit n₁ c₁)
      (h₂ : SpellsDigit n₂ c₂) (h₃ : SpellsDigit n₃ c₃) (h₄ : SpellsDigit n₄ c₄)
      : SpellsUnit (((n₁ * 16 + n₂) * 16 + n₃) * 16 + n₄) (c₁ :: c₂ :: c₃ :: c₄ :: rest) rest

def letters : List (Char × Char) := [
  ('"', '"'), ('\\', '\\'), ('/', '/'), ('b', '\x08'), ('f', '\x0c'), ('n', '\n'), ('r', '\r'), ('t', '\t')]

inductive SpellsChar : Char → List Char → List Char → Prop where
  | plain {c : Char} {rest : List Char} (hquote : c ≠ '"') (hback : c ≠ '\\') (hc : ' ' ≤ c)
      : SpellsChar c (c :: rest) rest
  | letter {e c : Char} {rest : List Char} (h : (e, c) ∈ letters) : SpellsChar c ('\\' :: e :: rest) rest
  | unit {c : Char} {cs rest : List Char} (h : SpellsUnit c.toNat cs rest)
      : SpellsChar c ('\\' :: 'u' :: cs) rest
  | pair {high low : Nat} {c : Char} {cs cs' rest : List Char} (hhigh : high < 0x400) (hlow : low < 0x400)
      (hc : c.toNat = 0x10000 + high * 0x400 + low)
      (hfirst : SpellsUnit (0xd800 + high) cs ('\\' :: 'u' :: cs'))
      (hsecond : SpellsUnit (0xdc00 + low) cs' rest)
      : SpellsChar c ('\\' :: 'u' :: cs) rest

inductive SpellsText : List Char → List Char → List Char → Prop where
  | nil {rest : List Char} : SpellsText [] ('"' :: rest) rest
  | cons {c : Char} {s cs cs' rest : List Char} (hc : SpellsChar c cs cs') (h : SpellsText s cs' rest)
      : SpellsText (c :: s) cs rest

inductive Comma : Bool → List Char → List Char → Prop where
  | first {cs : List Char} : Comma true cs cs
  | next {cs rest : List Char} (h : Blanks cs (',' :: rest)) : Comma false cs rest

mutual

inductive Spells : Json → List Char → List Char → Prop where
  | null {rest : List Char} : Spells .null ("null".toList ++ rest) rest
  | bool {b : Bool} {rest : List Char} : Spells (.bool b) ((toString b).toList ++ rest) rest
  | int {n : Int} {rest : List Char} : Spells (.int n) ((toString n).toList ++ rest) rest
  | decimal {text : String} {rest : List Char} : Spells (.decimal text) (text.toList ++ rest) rest
  | str {s : String} {cs rest : List Char} (h : SpellsText s.toList cs rest) : Spells (.str s) ('"' :: cs) rest
  | arr {vs : List Json} {cs rest : List Char} (h : SpellsItems true vs cs rest)
      : Spells (.arr vs) ('[' :: cs) rest
  | obj {ms : List (String × Json)} {cs rest : List Char} (h : SpellsMembers true ms cs rest)
      : Spells (.obj ms) ('\x7b' :: cs) rest

inductive SpellsItems : Bool → List Json → List Char → List Char → Prop where
  | nil {first : Bool} {cs rest : List Char} (h : Blanks cs (']' :: rest)) : SpellsItems first [] cs rest
  | cons {first : Bool} {v : Json} {vs : List Json} {cs cs₁ cs₂ cs₃ rest : List Char}
      (hcomma : Comma first cs cs₁) (hblanks : Blanks cs₁ cs₂) (hv : Spells v cs₂ cs₃)
      (h : SpellsItems false vs cs₃ rest)
      : SpellsItems first (v :: vs) cs rest

inductive SpellsMembers : Bool → List (String × Json) → List Char → List Char → Prop where
  | nil {first : Bool} {cs rest : List Char} (h : Blanks cs ('\x7d' :: rest)) : SpellsMembers first [] cs rest
  | cons {first : Bool} {name : String} {v : Json} {ms : List (String × Json)}
      {cs cs₁ cs₂ cs₃ cs₄ cs₅ cs₆ rest : List Char}
      (hcomma : Comma first cs cs₁) (hblanks : Blanks cs₁ ('"' :: cs₂)) (hname : SpellsText name.toList cs₂ cs₃)
      (hcolon : Blanks cs₃ (':' :: cs₄)) (hblanks' : Blanks cs₄ cs₅) (hv : Spells v cs₅ cs₆)
      (h : SpellsMembers false ms cs₆ rest)
      : SpellsMembers first ((name, v) :: ms) cs rest

end

def IsTextOf (text : List Char) (v : Json) : Prop :=
  ∃ cs rest, Blanks text cs ∧ v.Spells cs rest ∧ Blanks rest []

theorem unicodeEscape_ofNat
    : ∀ n < 0x20, unicodeEscape (Char.ofNat n)
        = ['\\', 'u', '0', '0', (n / 16).digitChar, (n % 16).digitChar] := by
  decide

theorem spellsChar_escapeChar (c : Char) (rest : List Char) : SpellsChar c (escapeChar c ++ rest) rest := by
  unfold escapeChar
  split_ifs with hquote hback _ _ _ _ _ hlt
  -- What has a letter of its own is escaped with it.
  any_goals
    subst_vars
    exact .letter (by decide)
  · have hdigits := unicodeEscape_ofNat c.toNat hlt
    rw [Char.ofNat_toNat] at hdigits
    rw [hdigits]
    have hzero : SpellsDigit 0 '0' := ⟨by decide, .inl rfl⟩
    have hunit : SpellsUnit (((0 * 16 + 0) * 16 + c.toNat / 16) * 16 + c.toNat % 16) _ rest :=
      .digits hzero hzero ⟨by omega, .inl rfl⟩ ⟨by omega, .inl rfl⟩
    have hsum : ((0 * 16 + 0) * 16 + c.toNat / 16) * 16 + c.toNat % 16 = c.toNat := by
      omega
    rw [hsum] at hunit
    exact .unit hunit
  · exact .plain hquote hback (Nat.le_of_not_lt ‹_›)

theorem spellsText_flatMap (s rest : List Char) : SpellsText s (s.flatMap escapeChar ++ '"' :: rest) rest := by
  induction s with
  | nil => exact .nil
  | cons c s ih =>
    rw [List.flatMap_cons]
    rw [List.append_assoc]
    exact .cons (spellsChar_escapeChar c _) ih

theorem renderString_append (s : String) (rest : List Char)
    : renderString s ++ rest = '"' :: (s.toList.flatMap escapeChar ++ '"' :: rest) := by
  unfold renderString
  rw [List.cons_append, List.cons_append, List.append_assoc]
  rfl

mutual

theorem spells_renderChars (v : Json) (rest : List Char) : v.Spells (v.renderChars ++ rest) rest := by
  cases v with
  | null => exact .null
  | bool b => exact .bool
  | int n => exact .int
  | decimal text => exact .decimal
  | str s =>
    unfold renderChars
    rw [renderString_append]
    exact .str (spellsText_flatMap _ _)
  | arr vs =>
    cases vs with
    | nil => exact .arr (.nil .done)
    | cons v vs =>
      unfold renderChars
      rw [List.cons_append, List.cons_append, List.append_assoc]
      exact .arr (.cons .first .done (spells_renderChars v _) (spellsItems_renderItems vs rest))
  | obj ms =>
    cases ms with
    | nil => exact .obj (.nil .done)
    | cons m ms =>
      obtain ⟨name, v⟩ := m
      have hv := spells_renderChars v (renderMembers ms ++ rest)
      have hms := spellsMembers_renderMembers ms rest
      unfold renderChars
      simp only [List.cons_append, List.append_assoc, renderString_append]
      exact .obj (.cons .first .done (spellsText_flatMap _ _) .done .done hv hms)

theorem spellsItems_renderItems (vs : List Json) (rest : List Char)
    : SpellsItems false vs (renderItems vs ++ rest) rest := by
  cases vs with
  | nil => exact .nil .done
  | cons v vs =>
    unfold renderItems
    rw [List.cons_append, List.cons_append, List.append_assoc]
    exact .cons (.next .done) .done (spells_renderChars v _) (spellsItems_renderItems vs rest)

theorem spellsMembers_renderMembers (ms : List (String × Json)) (rest : List Char)
    : SpellsMembers false ms (renderMembers ms ++ rest) rest := by
  cases ms with
  | nil => exact .nil .done
  | cons m ms =>
    obtain ⟨name, v⟩ := m
    have hv := spells_renderChars v (renderMembers ms ++ rest)
    have hms := spellsMembers_renderMembers ms rest
    unfold renderMembers
    simp only [List.cons_append, List.append_assoc, renderString_append]
    exact .cons (.next .done) .done (spellsText_flatMap _ _) .done .done hv hms

end

theorem isTextOf_render (v : Json) : IsTextOf v.render.toList v := by
  have h := spells_renderChars v []
  rw [List.append_nil] at h
  refine ⟨_, [], .done, ?_, .done⟩
  unfold render
  rw [String.toList_ofList]
  exact h

end Workbench.Json
