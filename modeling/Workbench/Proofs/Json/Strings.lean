import Mathlib.Tactic.SplitIfs
import Workbench.Json.Literal
import Workbench.Proofs.Json.Spelling
import Workbench.Proofs.Unicode.Scalar

/-!
The strings that are read are those that are spelled, and nothing else is read as a string: no surrogate
stands alone, and no control character without its escape.
-/

namespace Workbench.Json

theorem isBlank_iff {c : Char} : isBlank c = true ↔ c ∈ [' ', '\n', '\t', '\r'] := by
  simp [isBlank, or_assoc]

theorem skipBlanks_of_blanks {cs rest : List Char} (h : Blanks cs rest) : skipBlanks cs = skipBlanks rest := by
  induction h with
  | done => rfl
  | @more c cs rest hc h ih =>
    unfold skipBlanks at ih ⊢
    rw [List.dropWhile_cons_of_pos (isBlank_iff.2 hc)]
    exact ih

theorem skipBlanks_eq_cons {c : Char} {cs rest : List Char} (hc : isBlank c = false)
    (h : Blanks cs (c :: rest))
    : skipBlanks cs = c :: rest := by
  rw [skipBlanks_of_blanks h]
  exact List.dropWhile_cons_of_neg (ne_true_of_eq_false hc)

theorem hexValue?_of_spells {n : Nat} {c : Char} (h : SpellsDigit n c) : Text.hexValue? c = some n := by
  obtain ⟨hn, rfl | rfl⟩ := h
  · revert n
    decide
  · revert n
    decide

theorem readHex_of_spells {n : Nat} {cs rest : List Char} (h : SpellsUnit n cs rest)
    : readHex cs = .ok (n, rest) := by
  cases h with
  | digits h₁ h₂ h₃ h₄ =>
    simp only [readHex, hexValue?_of_spells h₁, hexValue?_of_spells h₂, hexValue?_of_spells h₃,
      hexValue?_of_spells h₄]

theorem shortEscape?_of_mem : ∀ e ∈ letters, e.1 ≠ 'u' ∧ shortEscape? e.1 = some e.2 := by
  decide

theorem readEscape_of_letter {e c : Char} {rest : List Char} (h : (e, c) ∈ letters)
    : readEscape (e :: rest) = .ok (c, rest) := by
  obtain ⟨hne, hshort⟩ := shortEscape?_of_mem _ h
  unfold readEscape
  split
  next heq => cases heq
  next heq =>
    cases heq
    exact absurd rfl hne
  next heq =>
    cases heq
    rw [hshort]

theorem isHighSurrogate_iff {n : Nat} : isHighSurrogate n = true ↔ 0xd800 ≤ n ∧ n ≤ 0xdbff := by
  unfold isHighSurrogate
  rw [Bool.and_eq_true, decide_eq_true_iff, decide_eq_true_iff]

theorem isLowSurrogate_iff {n : Nat} : isLowSurrogate n = true ↔ 0xdc00 ≤ n ∧ n ≤ 0xdfff := by
  unfold isLowSurrogate
  rw [Bool.and_eq_true, decide_eq_true_iff, decide_eq_true_iff]

theorem not_isLowSurrogate_toNat (c : Char) : isLowSurrogate c.toNat = false := by
  have hvalid : c.toNat < 0xd800 ∨ 0xdfff < c.toNat ∧ c.toNat < 0x110000 := c.valid
  rw [Bool.eq_false_iff, ne_eq, isLowSurrogate_iff]
  omega

theorem not_isHighSurrogate_toNat (c : Char) : isHighSurrogate c.toNat = false := by
  have hvalid : c.toNat < 0xd800 ∨ 0xdfff < c.toNat ∧ c.toNat < 0x110000 := c.valid
  rw [Bool.eq_false_iff, ne_eq, isHighSurrogate_iff]
  omega

theorem readEscape_of_unit {c : Char} {cs rest : List Char} (h : SpellsUnit c.toNat cs rest)
    : readEscape ('u' :: cs) = .ok (c, rest) := by
  rw [readEscape]
  rw [readHex_of_spells h]
  dsimp only
  rw [not_isLowSurrogate_toNat]
  rw [not_isHighSurrogate_toNat]
  rw [Char.ofNat_toNat]
  rfl

theorem readEscape_of_pair {high low : Nat} {c : Char} {cs cs' rest : List Char} (hhigh : high < 0x400)
    (hlow : low < 0x400) (hc : c.toNat = 0x10000 + high * 0x400 + low)
    (hfirst : SpellsUnit (0xd800 + high) cs ('\\' :: 'u' :: cs')) (hsecond : SpellsUnit (0xdc00 + low) cs' rest)
    : readEscape ('u' :: cs) = .ok (c, rest) := by
  have hnotLow : isLowSurrogate (0xd800 + high) = false := by
    rw [Bool.eq_false_iff, ne_eq, isLowSurrogate_iff]
    omega
  have hisHigh : isHighSurrogate (0xd800 + high) = true := by
    rw [isHighSurrogate_iff]
    omega
  have hisLow : isLowSurrogate (0xdc00 + low) = true := by
    rw [isLowSurrogate_iff]
    omega
  have hsum : (0xd800 + high - 0xd800) * 0x400 + (0xdc00 + low - 0xdc00) + 0x10000 = c.toNat := by
    omega
  rw [readEscape]
  rw [readHex_of_spells hfirst]
  dsimp only
  rw [hnotLow]
  rw [hisHigh]
  rw [readLowSurrogate]
  rw [readHex_of_spells hsecond]
  dsimp only
  rw [hisLow]
  rw [hsum]
  rw [Char.ofNat_toNat]
  rfl

theorem readString_backslash {c : Char} {cs rest : List Char} (h : readEscape cs = .ok (c, rest))
    : readString ('\\' :: cs) = (readString rest).map fun r => (c :: r.1, r.2) := by
  rw [readString]
  split
  next e he => cases he.symm.trans h
  next c' rest' he =>
    cases he.symm.trans h
    rfl

theorem readString_of_char {c : Char} {cs rest : List Char} (h : SpellsChar c cs rest)
    : readString cs = (readString rest).map fun r => (c :: r.1, r.2) := by
  cases h with
  | plain hquote hback hc =>
    rw [readString]
    · rw [if_neg (Char.not_lt.2 hc)]
    · exact fun heq => hquote heq
    · exact fun heq => hback heq
  | letter h => exact readString_backslash (readEscape_of_letter h)
  | unit h => exact readString_backslash (readEscape_of_unit h)
  | pair hhigh hlow hc hfirst hsecond =>
    exact readString_backslash (readEscape_of_pair hhigh hlow hc hfirst hsecond)

theorem readString_of_spells {s cs rest : List Char} (h : SpellsText s cs rest)
    : readString cs = .ok (s, rest) := by
  induction h with
  | nil => rw [readString]
  | cons hc h ih =>
    rw [readString_of_char hc]
    rw [ih]
    rfl

theorem spellsDigit_ofNat
    : ∀ k < 103, ∀ n ∈ Text.hexValue? (Char.ofNat k),
        n < 16 ∧ (Char.ofNat k = n.digitChar ∨ Char.ofNat k = n.digitChar.toUpper) := by
  decide +kernel

theorem spellsDigit_of_hexValue? {c : Char} {n : Nat} (h : Text.hexValue? c = some n) : SpellsDigit n c := by
  have hlt : c.toNat < 103 := by
    unfold Text.hexValue? at h
    split at h
    next hdigit => exact Nat.lt_of_le_of_lt hdigit.2 (by decide)
    next =>
      split at h
      next hletter => exact Nat.lt_of_le_of_lt hletter.2 (by decide)
      next =>
        split at h
        next hcapital => exact Nat.lt_of_le_of_lt hcapital.2 (by decide)
        next => cases h
  have hdigit := spellsDigit_ofNat c.toNat hlt n
  rw [Char.ofNat_toNat] at hdigit
  exact hdigit h

theorem spellsUnit_of_readHex {cs rest : List Char} {n : Nat} (h : readHex cs = .ok (n, rest))
    : SpellsUnit n cs rest := by
  unfold readHex at h
  split at h
  next c₁ c₂ c₃ c₄ rest' =>
    split at h
    next n₁ n₂ n₃ n₄ h₁ h₂ h₃ h₄ =>
      cases h
      exact .digits (spellsDigit_of_hexValue? h₁) (spellsDigit_of_hexValue? h₂) (spellsDigit_of_hexValue? h₃)
        (spellsDigit_of_hexValue? h₄)
    next => cases h
  next =>
    split at h
    next => cases h
    next => cases h

theorem lt_of_spellsUnit {cs rest : List Char} {n : Nat} (h : SpellsUnit n cs rest) : n < 0x10000 := by
  cases h with
  | digits h₁ h₂ h₃ h₄ =>
    have hlt₁ := h₁.1
    have hlt₂ := h₂.1
    have hlt₃ := h₃.1
    have hlt₄ := h₄.1
    omega

theorem mem_letters_of_shortEscape? {e c : Char} (h : shortEscape? e = some c) : (e, c) ∈ letters := by
  unfold shortEscape? at h
  split_ifs at h with hself hb hf hn hr ht
  · cases h
    rcases hself with rfl | rfl | rfl
    · decide
    · decide
    · decide
  all_goals
    cases h
    subst_vars
    decide

theorem isValidChar_of_not_surrogate {n : Nat} (hlt : n < 0x10000) (hlow : isLowSurrogate n = false)
    (hhigh : isHighSurrogate n = false)
    : n.isValidChar := by
  rw [Bool.eq_false_iff, ne_eq, isLowSurrogate_iff] at hlow
  rw [Bool.eq_false_iff, ne_eq, isHighSurrogate_iff] at hhigh
  unfold Nat.isValidChar
  omega

theorem spellsChar_of_readLowSurrogate {n : Nat} {cs cs' rest : List Char} {c : Char}
    (hn : isHighSurrogate n = true) (hunit : SpellsUnit n cs cs') (h : readLowSurrogate n cs' = .ok (c, rest))
    : SpellsChar c ('\\' :: 'u' :: cs) rest := by
  obtain ⟨hge, hle⟩ := isHighSurrogate_iff.1 hn
  unfold readLowSurrogate at h
  split at h
  case h_3 ds =>
    split at h
    next => cases h
    next low rest' hhex =>
      split at h
      next hlow =>
        rw [Except.ok.injEq, Prod.mk.injEq] at h
        obtain ⟨rfl, rfl⟩ := h
        obtain ⟨hge', hle'⟩ := isLowSurrogate_iff.1 hlow
        have hfirst : 0xd800 + (n - 0xd800) = n := by
          omega
        have hsecond : 0xdc00 + (low - 0xdc00) = low := by
          omega
        have hhigh : n - 0xd800 < 0x400 :=
          Nat.sub_lt_left_of_lt_add hge (Nat.lt_succ_of_le hle)
        have hlow : low - 0xdc00 < 0x400 :=
          Nat.sub_lt_left_of_lt_add hge' (Nat.lt_succ_of_le hle')
        have hvalid : ((n - 0xd800) * 0x400 + (low - 0xdc00) + 0x10000).isValidChar := by
          unfold Nat.isValidChar
          omega
        have hsum : (n - 0xd800) * 0x400 + (low - 0xdc00) + 0x10000
            = 0x10000 + (n - 0xd800) * 0x400 + (low - 0xdc00) := by
          omega
        rw [← hfirst] at hunit
        have hunit' := spellsUnit_of_readHex hhex
        rw [← hsecond] at hunit'
        exact .pair hhigh hlow ((Unicode.toNat_ofNat_of_valid hvalid).trans hsum) hunit hunit'
      next => cases h
  all_goals cases h

theorem spellsChar_of_readEscape {cs rest : List Char} {c : Char} (h : readEscape cs = .ok (c, rest))
    : SpellsChar c ('\\' :: cs) rest := by
  unfold readEscape at h
  split at h
  next => cases h
  next cs =>
    split at h
    next => cases h
    next n rest' hhex =>
      have hunit := spellsUnit_of_readHex hhex
      split at h
      next => cases h
      next hlow =>
        split at h
        next hhigh => exact spellsChar_of_readLowSurrogate hhigh hunit h
        next hhigh =>
          cases h
          have hvalid := isValidChar_of_not_surrogate (lt_of_spellsUnit hunit) (Bool.eq_false_iff.2 hlow)
            (Bool.eq_false_iff.2 hhigh)
          refine .unit ?_
          rw [Unicode.toNat_ofNat_of_valid hvalid]
          exact hunit
  next e cs _ =>
    split at h
    next c' hshort =>
      cases h
      exact .letter (mem_letters_of_shortEscape? hshort)
    next => cases h

theorem spellsText_of_readString {s cs rest : List Char} (h : readString cs = .ok (s, rest))
    : SpellsText s cs rest := by
  fun_induction readString cs generalizing s rest with
  | case1 => cases h
  | case2 cs =>
    cases h
    exact .nil
  | case3 cs e he => cases h
  | case4 cs c cs' hescape ih =>
    cases hrest : readString cs' with
    | error e =>
      rw [hrest] at h
      cases h
    | ok r =>
      rw [hrest] at h
      cases h
      exact .cons (spellsChar_of_readEscape hescape) (ih hrest)
  | case5 c cs _ _ hcontrol => cases h
  | case6 c cs hquote hback hcontrol ih =>
    cases hrest : readString cs with
    | error e =>
      rw [hrest] at h
      cases h
    | ok r =>
      rw [hrest] at h
      cases h
      exact .cons (.plain hquote hback (Char.not_lt.1 hcontrol)) (ih hrest)

theorem readString_iff {s cs rest : List Char} : readString cs = .ok (s, rest) ↔ SpellsText s cs rest :=
  ⟨spellsText_of_readString, readString_of_spells⟩

end Workbench.Json
