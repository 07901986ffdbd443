import Workbench.Json.Skip
import Workbench.Proofs.Json.Strings

/-!
The form of JSON values, whatever they hold: just these are passed over. A number goes on as long as it can.
-/

namespace Workbench.Json

inductive Digits : List Char → List Char → Prop where
  | last {c : Char} {rest : List Char} (hc : c.isDigit = true) (hrest : startsWithDigit rest = false)
      : Digits (c :: rest) rest
  | more {c : Char} {cs rest : List Char} (hc : c.isDigit = true) (h : Digits cs rest) : Digits (c :: cs) rest

inductive Exponent : List Char → List Char → Prop where
  | absent {rest : List Char} (h : rest.head? ≠ some 'e' ∧ rest.head? ≠ some 'E') : Exponent rest rest
  | present {e : Char} {cs ds rest : List Char} (he : e = 'e' ∨ e = 'E')
      (hsign : cs = ds ∨ cs = '+' :: ds ∨ cs = '-' :: ds) (h : Digits ds rest)
      : Exponent (e :: cs) rest

inductive Fraction : List Char → List Char → Prop where
  | absent {cs rest : List Char} (hcs : cs.head? ≠ some '.') (h : Exponent cs rest) : Fraction cs rest
  | present {cs cs' rest : List Char} (hdigits : Digits cs cs') (h : Exponent cs' rest)
      : Fraction ('.' :: cs) rest

/-- A number after its sign. No other digit follows a leading zero. -/
inductive Number : List Char → List Char → Prop where
  | zero {cs rest : List Char} (hcs : startsWithDigit cs = false) (h : Fraction cs rest)
      : Number ('0' :: cs) rest
  | digits {c : Char} {cs cs' rest : List Char} (hc : c ≠ '0') (hdigits : Digits (c :: cs) cs')
      (h : Fraction cs' rest)
      : Number (c :: cs) rest

inductive AnyText : List Char → List Char → Prop where
  | done {rest : List Char} : AnyText ('"' :: rest) rest
  | plain {c : Char} {cs rest : List Char} (hquote : c ≠ '"') (hback : c ≠ '\\') (hc : ' ' ≤ c)
      (h : AnyText cs rest)
      : AnyText (c :: cs) rest
  | letter {e c : Char} {cs rest : List Char} (he : (e, c) ∈ letters) (h : AnyText cs rest)
      : AnyText ('\\' :: e :: cs) rest
  | unit {n : Nat} {cs cs' rest : List Char} (hunit : SpellsUnit n cs cs') (h : AnyText cs' rest)
      : AnyText ('\\' :: 'u' :: cs) rest

inductive Scalar : List Char → List Char → Prop where
  | null {rest : List Char} : Scalar ('n' :: 'u' :: 'l' :: 'l' :: rest) rest
  | true {rest : List Char} : Scalar ('t' :: 'r' :: 'u' :: 'e' :: rest) rest
  | false {rest : List Char} : Scalar ('f' :: 'a' :: 'l' :: 's' :: 'e' :: rest) rest
  | text {cs rest : List Char} (h : AnyText cs rest) : Scalar ('"' :: cs) rest
  | negative {cs rest : List Char} (h : Number cs rest) : Scalar ('-' :: cs) rest
  | number {cs rest : List Char} (h : Number cs rest) : Scalar cs rest

mutual

inductive AnyValue : List Char → List Char → Prop where
  | scalar {cs cs' rest : List Char} (hblanks : Blanks cs cs') (h : Scalar cs' rest) : AnyValue cs rest
  | emptyList {cs cs' rest : List Char} (hblanks : Blanks cs ('[' :: cs')) (h : Blanks cs' (']' :: rest))
      : AnyValue cs rest
  | list {cs cs' cs'' rest : List Char} (hblanks : Blanks cs ('[' :: cs')) (hitem : AnyValue cs' cs'')
      (h : AnyItems cs'' rest)
      : AnyValue cs rest
  | emptyObject {cs cs' rest : List Char} (hblanks : Blanks cs ('\x7b' :: cs'))
      (h : Blanks cs' ('\x7d' :: rest))
      : AnyValue cs rest
  | object {cs cs' rest : List Char} (hblanks : Blanks cs ('\x7b' :: cs')) (h : AnyMember cs' rest)
      : AnyValue cs rest

inductive AnyItems : List Char → List Char → Prop where
  | done {cs rest : List Char} (h : Blanks cs (']' :: rest)) : AnyItems cs rest
  | more {cs cs' cs'' rest : List Char} (hcomma : Blanks cs (',' :: cs')) (hitem : AnyValue cs' cs'')
      (h : AnyItems cs'' rest)
      : AnyItems cs rest

inductive AnyMember : List Char → List Char → Prop where
  | mk {cs cs₁ cs₂ cs₃ cs₄ rest : List Char} (hblanks : Blanks cs ('"' :: cs₁)) (hname : AnyText cs₁ cs₂)
      (hcolon : Blanks cs₂ (':' :: cs₃)) (hv : AnyValue cs₃ cs₄) (h : AnyMembers cs₄ rest)
      : AnyMember cs rest

inductive AnyMembers : List Char → List Char → Prop where
  | done {cs rest : List Char} (h : Blanks cs ('\x7d' :: rest)) : AnyMembers cs rest
  | more {cs cs' rest : List Char} (hcomma : Blanks cs (',' :: cs')) (h : AnyMember cs' rest)
      : AnyMembers cs rest

end

theorem skipDigits_of_digits {cs rest : List Char} (h : Digits cs rest)
    : startsWithDigit cs = true ∧ skipDigits cs = rest := by
  induction h with
  | @last c rest hc hrest =>
    refine ⟨hc, ?_⟩
    unfold skipDigits
    rw [List.dropWhile_cons_of_pos hc]
    cases rest with
    | nil => rfl
    | cons d rest => exact List.dropWhile_cons_of_neg (ne_true_of_eq_false hrest)
  | @more c cs rest hc h ih =>
    refine ⟨hc, ?_⟩
    unfold skipDigits at ih ⊢
    rw [List.dropWhile_cons_of_pos hc]
    exact ih.2

theorem digits_skipDigits {cs : List Char} (h : startsWithDigit cs = true) : Digits cs (skipDigits cs) := by
  induction cs with
  | nil => cases h
  | cons c cs ih =>
    have hc : c.isDigit = true := h
    unfold skipDigits
    rw [List.dropWhile_cons_of_pos hc]
    cases hcs : startsWithDigit cs with
    | true => exact .more hc (ih hcs)
    | false =>
      have hstop : cs.dropWhile Char.isDigit = cs := by
        cases cs with
        | nil => rfl
        | cons d cs => exact List.dropWhile_cons_of_neg (ne_true_of_eq_false hcs)
      rw [hstop]
      exact .last hc hcs

theorem skipExponentDigits_iff {cs rest : List Char} : skipExponentDigits cs = .ok rest ↔ Digits cs rest := by
  unfold skipExponentDigits
  constructor
  · intro h
    split at h
    next hdigit =>
      cases h
      exact digits_skipDigits hdigit
    next => cases h
  · intro h
    obtain ⟨hdigit, hrest⟩ := skipDigits_of_digits h
    rw [if_pos hdigit]
    rw [hrest]

theorem skipSign_of_digits {cs ds rest : List Char} (hsign : cs = ds ∨ cs = '+' :: ds ∨ cs = '-' :: ds)
    (h : Digits ds rest)
    : skipSign cs = ds := by
  rcases hsign with rfl | rfl | rfl
  · unfold skipSign
    split
    next cs => exact absurd (skipDigits_of_digits h).1 Bool.false_ne_true
    next cs => exact absurd (skipDigits_of_digits h).1 Bool.false_ne_true
    next => rfl
  · rfl
  · rfl

theorem skipSign_cases (cs : List Char)
    : cs = skipSign cs ∨ cs = '+' :: skipSign cs ∨ cs = '-' :: skipSign cs := by
  unfold skipSign
  split
  next => exact .inr (.inr rfl)
  next => exact .inr (.inl rfl)
  next => exact .inl rfl

theorem skipExponent_iff {cs rest : List Char} : skipExponent cs = .ok rest ↔ Exponent cs rest := by
  constructor
  · intro h
    unfold skipExponent at h
    split at h
    next cs => exact .present (.inl rfl) (skipSign_cases cs) (skipExponentDigits_iff.1 h)
    next cs => exact .present (.inr rfl) (skipSign_cases cs) (skipExponentDigits_iff.1 h)
    next cs he hE =>
      cases h
      refine .absent ⟨?_, ?_⟩
      · intro hhead
        obtain ⟨ds, rfl⟩ := List.head?_eq_some_iff.1 hhead
        exact he ds rfl
      · intro hhead
        obtain ⟨ds, rfl⟩ := List.head?_eq_some_iff.1 hhead
        exact hE ds rfl
  · intro h
    cases h with
    | absent h =>
      unfold skipExponent
      split
      next => exact absurd rfl h.1
      next => exact absurd rfl h.2
      next => rfl
    | present he hsign h =>
      rcases he with rfl | rfl
      · change skipExponentDigits (skipSign _) = _
        rw [skipSign_of_digits hsign h]
        exact skipExponentDigits_iff.2 h
      · change skipExponentDigits (skipSign _) = _
        rw [skipSign_of_digits hsign h]
        exact skipExponentDigits_iff.2 h

theorem skipFraction_iff {cs rest : List Char} : skipFraction cs = .ok rest ↔ Fraction cs rest := by
  constructor
  · intro h
    unfold skipFraction at h
    split at h
    next cs =>
      split at h
      next hdigit => exact .present (digits_skipDigits hdigit) (skipExponent_iff.1 h)
      next => cases h
    next cs hpoint =>
      refine .absent ?_ (skipExponent_iff.1 h)
      intro hhead
      obtain ⟨ds, rfl⟩ := List.head?_eq_some_iff.1 hhead
      exact hpoint ds rfl
  · intro h
    cases h with
    | absent hcs h =>
      unfold skipFraction
      split
      next => exact absurd rfl hcs
      next => exact skipExponent_iff.2 h
    | present hdigits h =>
      obtain ⟨hdigit, hrest⟩ := skipDigits_of_digits hdigits
      rw [skipFraction]
      rw [if_pos hdigit]
      rw [hrest]
      exact skipExponent_iff.2 h

theorem skipNumber_iff {cs rest : List Char} : skipNumber cs = .ok rest ↔ Number cs rest := by
  constructor
  · intro h
    unfold skipNumber at h
    split at h
    next => cases h
    next cs =>
      split at h
      next => cases h
      next hdigit => exact .zero (Bool.eq_false_iff.2 hdigit) (skipFraction_iff.1 h)
    next c cs hzero =>
      split at h
      next hc =>
        have hdigits : Digits (c :: cs) (skipDigits (c :: cs)) := digits_skipDigits hc
        have hskip : skipDigits (c :: cs) = skipDigits cs := List.dropWhile_cons_of_pos hc
        rw [hskip] at hdigits
        exact .digits (fun heq => hzero heq) hdigits (skipFraction_iff.1 h)
      next => cases h
  · intro h
    cases h with
    | zero hcs h =>
      rw [skipNumber]
      rw [hcs]
      exact skipFraction_iff.2 h
    | @digits c cs cs' _ hc hdigits h =>
      obtain ⟨hdigit, hrest⟩ := skipDigits_of_digits hdigits
      have hskip : skipDigits (c :: cs) = skipDigits cs := List.dropWhile_cons_of_pos hdigit
      rw [hskip] at hrest
      unfold skipNumber
      split
      next heq => cases heq
      next heq =>
        cases heq
        exact absurd rfl hc
      next heq =>
        cases heq
        have hc : c.isDigit = true := hdigit
        rw [if_pos hc]
        rw [hrest]
        exact skipFraction_iff.2 h

theorem skipEscape_iff {cs rest : List Char}
    : skipEscape cs = .ok rest
        ↔ (∃ e c, (e, c) ∈ letters ∧ cs = e :: rest) ∨ ∃ n cs', cs = 'u' :: cs' ∧ SpellsUnit n cs' rest := by
  constructor
  · intro h
    unfold skipEscape at h
    split at h
    next => cases h
    next cs =>
      cases hhex : readHex cs with
      | error e =>
        rw [hhex] at h
        cases h
      | ok r =>
        rw [hhex] at h
        cases h
        exact .inr ⟨r.1, cs, rfl, spellsUnit_of_readHex hhex⟩
    next e cs _ =>
      split at h
      next hshort =>
        cases h
        obtain ⟨c, hc⟩ := Option.isSome_iff_exists.1 hshort
        exact .inl ⟨e, c, mem_letters_of_shortEscape? hc, rfl⟩
      next => cases h
  · rintro (⟨e, c, he, rfl⟩ | ⟨n, cs', rfl, hunit⟩)
    · obtain ⟨hne, hshort⟩ := shortEscape?_of_mem _ he
      unfold skipEscape
      split
      next heq => cases heq
      next heq =>
        cases heq
        exact absurd rfl hne
      next heq =>
        cases heq
        rw [hshort]
        rfl
    · rw [skipEscape]
      rw [readHex_of_spells hunit]
      rfl

theorem anyText_of_skipString {cs rest : List Char} (h : skipString cs = .ok rest) : AnyText cs rest := by
  fun_induction skipString cs with
  | case1 => cases h
  | case2 cs =>
    cases h
    exact .done
  | case3 => cases h
  | case4 cs cs' hescape ih =>
    rcases skipEscape_iff.1 hescape with ⟨e, c, he, rfl⟩ | ⟨n, ds, rfl, hunit⟩
    · exact .letter he (ih h)
    · exact .unit hunit (ih h)
  | case5 => cases h
  | case6 c cs hquote hback hcontrol ih => exact .plain hquote hback (Char.not_lt.1 hcontrol) (ih h)

theorem skipString_backslash {cs cs' : List Char} (h : skipEscape cs = .ok cs')
    : skipString ('\\' :: cs) = skipString cs' := by
  rw [skipString]
  split
  next he => cases he.symm.trans h
  next he =>
    cases he.symm.trans h
    rfl

theorem skipString_of_anyText {cs rest : List Char} (h : AnyText cs rest) : skipString cs = .ok rest := by
  induction h with
  | done => rw [skipString]
  | plain hquote hback hc h ih =>
    rw [skipString]
    · rw [if_neg (Char.not_lt.2 hc)]
      exact ih
    · exact fun heq => hquote heq
    · exact fun heq => hback heq
  | letter he h ih =>
    rw [skipString_backslash (skipEscape_iff.2 (.inl ⟨_, _, he, rfl⟩))]
    exact ih
  | unit hunit h ih =>
    rw [skipString_backslash (skipEscape_iff.2 (.inr ⟨_, _, rfl, hunit⟩))]
    exact ih

theorem readWord_iff {es cs rest : List Char} : readWord es cs = .ok rest ↔ cs = es ++ rest := by
  fun_induction readWord es cs with
  | case1 cs =>
    rw [Except.ok.injEq]
    rfl
  | case2 e es => simp
  | case3 e es cs ih =>
    rw [ih]
    simp
  | case4 e es c cs hne => simp [hne]

theorem number_cons {cs rest : List Char} (h : Number cs rest) : ∃ c ds, cs = c :: ds ∧ c.isDigit = true := by
  cases h with
  | zero => exact ⟨'0', _, rfl, rfl⟩
  | digits hc hdigits => exact ⟨_, _, rfl, (skipDigits_of_digits hdigits).1⟩

theorem skipScalar_iff {cs rest : List Char} : skipScalar cs = .ok rest ↔ Scalar cs rest := by
  constructor
  · intro h
    unfold skipScalar at h
    split at h
    next => cases h
    next =>
      rw [readWord_iff] at h
      subst h
      exact .null
    next =>
      rw [readWord_iff] at h
      subst h
      exact .true
    next =>
      rw [readWord_iff] at h
      subst h
      exact .false
    next => exact .text (anyText_of_skipString h)
    next => exact .negative (skipNumber_iff.1 h)
    next =>
      split at h
      next => exact .number (skipNumber_iff.1 h)
      next => cases h
  · intro h
    cases h with
    | null => exact readWord_iff.2 rfl
    | true => exact readWord_iff.2 rfl
    | false => exact readWord_iff.2 rfl
    | text h => exact skipString_of_anyText h
    | negative h => exact skipNumber_iff.2 h
    | number h =>
      obtain ⟨c, ds, rfl, hc⟩ := number_cons h
      rw [skipScalar]
      · rw [if_pos hc]
        exact skipNumber_iff.2 h
      all_goals
        rintro rfl
        cases hc

theorem blanks_skipBlanks (cs : List Char) : Blanks cs (skipBlanks cs) := by
  induction cs with
  | nil => exact .done
  | cons c cs ih =>
    unfold skipBlanks at ih ⊢
    cases hc : isBlank c with
    | true =>
      rw [List.dropWhile_cons_of_pos hc]
      exact .more (isBlank_iff.1 hc) ih
    | false =>
      rw [List.dropWhile_cons_of_neg (ne_true_of_eq_false hc)]
      exact .done

theorem blanks_of_skipBlanks {cs rest : List Char} (h : skipBlanks cs = rest) : Blanks cs rest := by
  rw [← h]
  exact blanks_skipBlanks cs

theorem Blanks.trans {cs cs' rest : List Char} (h : Blanks cs cs') (h' : Blanks cs' rest) : Blanks cs rest := by
  induction h with
  | done => exact h'
  | more hc h ih => exact .more hc (ih h')

theorem AnyValue.after {cs cs' rest : List Char} (hblanks : Blanks cs cs') (h : AnyValue cs' rest)
    : AnyValue cs rest := by
  cases h with
  | scalar hblanks' h => exact .scalar (hblanks.trans hblanks') h
  | emptyList hblanks' h => exact .emptyList (hblanks.trans hblanks') h
  | list hblanks' hitem h => exact .list (hblanks.trans hblanks') hitem h
  | emptyObject hblanks' h => exact .emptyObject (hblanks.trans hblanks') h
  | object hblanks' h => exact .object (hblanks.trans hblanks') h

theorem AnyMember.after {cs cs' rest : List Char} (hblanks : Blanks cs cs') (h : AnyMember cs' rest)
    : AnyMember cs rest := by
  cases h with
  | mk hblanks' hname hcolon hv h => exact .mk (hblanks.trans hblanks') hname hcolon hv h

def Closes : List Enclosure → List Char → List Char → Prop
  | [], cs, rest => cs = rest
  | .list :: around, cs, rest => ∃ cs', AnyItems cs cs' ∧ Closes around cs' rest
  | .object :: around, cs, rest => ∃ cs', AnyMembers cs cs' ∧ Closes around cs' rest

mutual

theorem anyValue_of_skipValue {around : List Enclosure} {cs rest : List Char}
    (h : skipValue around cs = .ok rest)
    : ∃ cs', AnyValue cs cs' ∧ Closes around cs' rest := by
  rw [skipValue] at h
  split at h
  next => cases h
  next hblanks =>
    replace hblanks := blanks_of_skipBlanks hblanks
    split at h
    next => cases h
    next hend => exact ⟨_, .emptyList hblanks (blanks_of_skipBlanks hend), closes_of_skipAfterValue h⟩
    next =>
      obtain ⟨cs', hitem, cs'', hitems, hcloses⟩ := anyValue_of_skipValue h
      exact ⟨cs'', .list hblanks (.after (blanks_skipBlanks _) hitem) hitems, hcloses⟩
  next hblanks =>
    replace hblanks := blanks_of_skipBlanks hblanks
    split at h
    next => cases h
    next hend => exact ⟨_, .emptyObject hblanks (blanks_of_skipBlanks hend), closes_of_skipAfterValue h⟩
    next =>
      obtain ⟨cs', hmember, hcloses⟩ := anyMember_of_skipMember h
      exact ⟨cs', .object hblanks (.after (blanks_skipBlanks _) hmember), hcloses⟩
  next =>
    split at h
    next => cases h
    next hscalar =>
      exact ⟨_, .scalar (blanks_skipBlanks cs) (skipScalar_iff.1 hscalar), closes_of_skipAfterValue h⟩
termination_by cs.length
decreasing_by all_goals grind [length_skipBlanks_le, → length_skipScalar]

theorem anyMember_of_skipMember {around : List Enclosure} {cs rest : List Char}
    (h : skipMember around cs = .ok rest)
    : ∃ cs', AnyMember cs cs' ∧ Closes around cs' rest := by
  unfold skipMember at h
  split at h
  next => cases h
  next =>
    split at h
    next => cases h
    next hname =>
      split at h
      next => cases h
      next hcolon =>
        obtain ⟨cs', hv, cs'', hmembers, hcloses⟩ := anyValue_of_skipValue h
        exact ⟨cs'', .mk .done (anyText_of_skipString hname) (blanks_of_skipBlanks hcolon) hv hmembers, hcloses⟩
      next => cases h
  next => cases h
termination_by cs.length
decreasing_by all_goals grind [length_skipBlanks_le, → length_skipString]

theorem closes_of_skipAfterValue {around : List Enclosure} {cs rest : List Char}
    (h : skipAfterValue around cs = .ok rest)
    : Closes around cs rest := by
  unfold skipAfterValue at h
  split at h
  next =>
    cases h
    rfl
  next around =>
    split at h
    next => cases h
    next hcomma =>
      obtain ⟨cs', hitem, cs'', hitems, hcloses⟩ := anyValue_of_skipValue h
      exact ⟨cs'', .more (blanks_of_skipBlanks hcomma) hitem hitems, hcloses⟩
    next hend => exact ⟨_, .done (blanks_of_skipBlanks hend), closes_of_skipAfterValue h⟩
    next => cases h
  next around =>
    split at h
    next => cases h
    next hcomma =>
      obtain ⟨cs', hmember, hcloses⟩ := anyMember_of_skipMember h
      exact ⟨cs', .more (blanks_of_skipBlanks hcomma) (.after (blanks_skipBlanks _) hmember), hcloses⟩
    next hend => exact ⟨_, .done (blanks_of_skipBlanks hend), closes_of_skipAfterValue h⟩
    next => cases h
termination_by cs.length
decreasing_by all_goals grind [length_skipBlanks_le]

end

theorem isDigit_eq_false : ∀ c ∈ [' ', '\n', '\t', '\r', '[', ']', '\x7b'], c.isDigit = false := by
  simp only [List.forall_mem_cons, List.not_mem_nil, false_imp_iff, implies_true, and_true]
  decide

theorem scalar_cons {cs rest : List Char} (h : Scalar cs rest)
    : ∃ c ds, cs = c :: ds ∧ c ∉ [' ', '\n', '\t', '\r', '[', ']', '\x7b'] := by
  cases h with
  | number h =>
    obtain ⟨c, ds, rfl, hc⟩ := number_cons h
    refine ⟨c, ds, rfl, ?_⟩
    intro hmem
    rw [isDigit_eq_false c hmem] at hc
    cases hc
  | _ => exact ⟨_, _, rfl, by decide⟩

theorem skipBlanks_scalar {cs cs' rest : List Char} (hblanks : Blanks cs cs') (h : Scalar cs' rest)
    : skipBlanks cs = cs' := by
  obtain ⟨c, ds, rfl, hc⟩ := scalar_cons h
  refine skipBlanks_eq_cons ?_ hblanks
  simp_all [isBlank]

theorem skipValue_of_scalar {around : List Enclosure} {cs cs' rest : List Char} (hblanks : Blanks cs cs')
    (h : Scalar cs' rest)
    : skipValue around cs = skipAfterValue around rest := by
  have hcs := skipBlanks_scalar hblanks h
  obtain ⟨c, ds, rfl, hc⟩ := scalar_cons h
  rw [skipValue]
  split
  next heq => cases hcs.symm.trans heq
  next heq =>
    cases hcs.symm.trans heq
    exact absurd (by decide) hc
  next heq =>
    cases hcs.symm.trans heq
    exact absurd (by decide) hc
  next =>
    rw [hcs]
    have hscalar := skipScalar_iff.2 h
    split
    next he => cases he.symm.trans hscalar
    next he =>
      cases he.symm.trans hscalar
      rfl

theorem skipValue_skipBlanks (around : List Enclosure) (cs : List Char)
    : skipValue around (skipBlanks cs) = skipValue around cs := by
  have hcs : skipBlanks (skipBlanks cs) = skipBlanks cs := (skipBlanks_of_blanks (blanks_skipBlanks cs)).symm
  rw [skipValue.eq_def around (skipBlanks cs)]
  rw [skipValue.eq_def around cs]
  rw [hcs]

theorem anyValue_cons {cs rest : List Char} (h : AnyValue cs rest)
    : ∃ c ds, skipBlanks cs = c :: ds ∧ c ≠ ']' := by
  cases h with
  | scalar hblanks h =>
    have hcs := skipBlanks_scalar hblanks h
    obtain ⟨c, ds, rfl, hc⟩ := scalar_cons h
    refine ⟨c, ds, hcs, ?_⟩
    rintro rfl
    exact hc (by decide)
  | emptyList hblanks => exact ⟨_, _, skipBlanks_eq_cons rfl hblanks, by decide⟩
  | list hblanks => exact ⟨_, _, skipBlanks_eq_cons rfl hblanks, by decide⟩
  | emptyObject hblanks => exact ⟨_, _, skipBlanks_eq_cons rfl hblanks, by decide⟩
  | object hblanks => exact ⟨_, _, skipBlanks_eq_cons rfl hblanks, by decide⟩

theorem skipValue_emptyList {around : List Enclosure} {cs cs' rest : List Char}
    (hblanks : Blanks cs ('[' :: cs')) (h : Blanks cs' (']' :: rest))
    : skipValue around cs = skipAfterValue around rest := by
  have hcs : skipBlanks cs = '[' :: cs' := skipBlanks_eq_cons rfl hblanks
  have hcs' : skipBlanks cs' = ']' :: rest := skipBlanks_eq_cons rfl h
  rw [skipValue]
  grind

theorem skipValue_list {around : List Enclosure} {cs cs' rest : List Char} (hblanks : Blanks cs ('[' :: cs'))
    (h : AnyValue cs' rest)
    : skipValue around cs = skipValue (.list :: around) cs' := by
  obtain ⟨c, ds, hcs', hc⟩ := anyValue_cons h
  have hcs : skipBlanks cs = '[' :: cs' := skipBlanks_eq_cons rfl hblanks
  rw [← skipValue_skipBlanks (.list :: around) cs']
  rw [skipValue]
  grind

theorem skipValue_emptyObject {around : List Enclosure} {cs cs' rest : List Char}
    (hblanks : Blanks cs ('\x7b' :: cs')) (h : Blanks cs' ('\x7d' :: rest))
    : skipValue around cs = skipAfterValue around rest := by
  have hcs : skipBlanks cs = '\x7b' :: cs' := skipBlanks_eq_cons rfl hblanks
  have hcs' : skipBlanks cs' = '\x7d' :: rest := skipBlanks_eq_cons rfl h
  rw [skipValue]
  grind

theorem skipValue_object {around : List Enclosure} {cs cs' rest : List Char}
    (hblanks : Blanks cs ('\x7b' :: cs')) (h : AnyMember cs' rest)
    : skipValue around cs = skipMember around (skipBlanks cs') := by
  have hcs : skipBlanks cs = '\x7b' :: cs' := skipBlanks_eq_cons rfl hblanks
  cases h with
  | mk hquote =>
    have hcs' : skipBlanks cs' = '"' :: _ := skipBlanks_eq_cons rfl hquote
    rw [skipValue]
    grind

theorem skipMember_of_parts {around : List Enclosure} {cs cs₁ cs₂ cs₃ : List Char}
    (hblanks : Blanks cs ('"' :: cs₁)) (hname : AnyText cs₁ cs₂) (hcolon : Blanks cs₂ (':' :: cs₃))
    : skipMember around (skipBlanks cs) = skipValue (.object :: around) cs₃ := by
  have hskip : skipString cs₁ = .ok cs₂ := skipString_of_anyText hname
  have hcs : skipBlanks cs₂ = ':' :: cs₃ := skipBlanks_eq_cons rfl hcolon
  rw [skipBlanks_eq_cons rfl hblanks]
  rw [skipMember]
  grind

theorem skipAfterValue_lastItem {around : List Enclosure} {cs rest : List Char} (h : Blanks cs (']' :: rest))
    : skipAfterValue (.list :: around) cs = skipAfterValue around rest := by
  have hcs : skipBlanks cs = ']' :: rest := skipBlanks_eq_cons rfl h
  rw [skipAfterValue]
  grind

theorem skipAfterValue_nextItem {around : List Enclosure} {cs rest : List Char} (h : Blanks cs (',' :: rest))
    : skipAfterValue (.list :: around) cs = skipValue (.list :: around) rest := by
  have hcs : skipBlanks cs = ',' :: rest := skipBlanks_eq_cons rfl h
  rw [skipAfterValue]
  grind

theorem skipAfterValue_lastMember {around : List Enclosure} {cs rest : List Char}
    (h : Blanks cs ('\x7d' :: rest))
    : skipAfterValue (.object :: around) cs = skipAfterValue around rest := by
  have hcs : skipBlanks cs = '\x7d' :: rest := skipBlanks_eq_cons rfl h
  rw [skipAfterValue]
  grind

theorem skipAfterValue_nextMember {around : List Enclosure} {cs rest : List Char} (h : Blanks cs (',' :: rest))
    : skipAfterValue (.object :: around) cs = skipMember around (skipBlanks rest) := by
  have hcs : skipBlanks cs = ',' :: rest := skipBlanks_eq_cons rfl h
  rw [skipAfterValue]
  grind

theorem skipValue_of_anyValue {cs rest : List Char} (h : AnyValue cs rest)
    : ∀ around, skipValue around cs = skipAfterValue around rest := by
  refine @AnyValue.rec (fun cs rest _ => ∀ around, skipValue around cs = skipAfterValue around rest)
    (fun cs rest _ => ∀ around, skipAfterValue (.list :: around) cs = skipAfterValue around rest)
    (fun cs rest _ => ∀ around, skipMember around (skipBlanks cs) = skipAfterValue around rest)
    (fun cs rest _ => ∀ around, skipAfterValue (.object :: around) cs = skipAfterValue around rest)
    ?scalar ?emptyList ?list ?emptyObject ?object ?lastItem ?nextItem ?member ?lastMember ?nextMember _ _ h
  case scalar =>
    intro cs cs' rest hblanks h around
    exact skipValue_of_scalar hblanks h
  case emptyList =>
    intro cs cs' rest hblanks h around
    exact skipValue_emptyList hblanks h
  case list =>
    intro cs cs' cs'' rest hblanks hitem _ ihitem ih around
    rw [skipValue_list hblanks hitem]
    rw [ihitem]
    rw [ih]
  case emptyObject =>
    intro cs cs' rest hblanks h around
    exact skipValue_emptyObject hblanks h
  case object =>
    intro cs cs' rest hblanks h ih around
    rw [skipValue_object hblanks h]
    rw [ih]
  case lastItem =>
    intro cs rest h around
    exact skipAfterValue_lastItem h
  case nextItem =>
    intro cs cs' cs'' rest hcomma hitem _ ihitem ih around
    rw [skipAfterValue_nextItem hcomma]
    rw [ihitem]
    rw [ih]
  case member =>
    intro cs cs₁ cs₂ cs₃ cs₄ rest hblanks hname hcolon hv _ ihv ih around
    rw [skipMember_of_parts hblanks hname hcolon]
    rw [ihv]
    rw [ih]
  case lastMember =>
    intro cs rest h around
    exact skipAfterValue_lastMember h
  case nextMember =>
    intro cs cs' rest hcomma h ih around
    rw [skipAfterValue_nextMember hcomma]
    rw [ih]

theorem skipValue_iff {cs rest : List Char} : skipValue [] cs = .ok rest ↔ AnyValue cs rest := by
  constructor
  · intro h
    obtain ⟨cs', hv, rfl⟩ := anyValue_of_skipValue h
    exact hv
  · intro h
    rw [skipValue_of_anyValue h]
    rw [skipAfterValue]

end Workbench.Json
