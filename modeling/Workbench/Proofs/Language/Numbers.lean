import Workbench.Proofs.Language.Strings

/-!
Where digits lead. The pattern of a number tries the longest spelling first and gives characters back until no word goes
on after it. All but two of its tries end between digits, so a number has all the digits that there are, and a fraction
if that is followed by no word. Where no number is recognised, the digits are identifiers one by one.
-/

namespace Workbench

open Text

namespace LexicalRule

/-- All digits that a text begins with, of which there is at least one. -/
structure DigitRun (digits rest : List Char) : Prop where
  ne_nil : digits ≠ []
  isDigit : ∀ c ∈ digits, c.isDigit = true
  ends : ∀ c ∈ rest.head?, c.isDigit = false

def EndsWord (rest : List Char) : Prop :=
  ∀ c ∈ rest.head?, Unicode.isWordCharacter c = false

def HasFraction (rest fraction after : List Char) : Prop :=
  rest = '.' :: (fraction ++ after) ∧ DigitRun fraction after

theorem isNameChar_of_isDigit {c : Char} (h : c.isDigit = true) : Lexer.isNameChar c = true := by
  simp [Lexer.isNameChar, Char.isAlphanum, h]

theorem isIdentifierStart_of_isDigit {c : Char} (h : c.isDigit = true) : isIdentifierStart c = false := by
  have hall : ∀ n < 128, (Char.ofNat n).isDigit = true → isIdentifierStart (Char.ofNat n) = false := by
    decide
  have hc := hall c.toNat (Lexer.toNat_lt_of_isNameChar (isNameChar_of_isDigit h))
  rw [Char.ofNat_toNat] at hc
  exact hc h

theorem endsWord_point (cs : List Char) : EndsWord ('.' :: cs) := by
  intro c hc
  cases hc
  exact (Lexer.classes_of_ascii (by decide)).1

section Runs

variable {whole fraction after rest : List Char}

theorem DigitRun.isName (h : DigitRun whole rest) : Lexer.IsName whole :=
  ⟨h.ne_nil, fun c hc => isNameChar_of_isDigit (h.isDigit c hc)⟩

theorem DigitRun.takeWhile (h : DigitRun whole rest) : (whole ++ rest).takeWhile Char.isDigit = whole := by
  rw [takeWhile_eq_iff]
  exact ⟨rest, rfl, h.isDigit, h.ends⟩

theorem exists_digitRun {c : Char} (h : c.isDigit = true) (cs : List Char)
    : ∃ whole rest, c :: cs = whole ++ rest ∧ DigitRun whole rest := by
  obtain ⟨rest, happend, hall, hends⟩ := takeWhile_eq_iff.1 (rfl : (c :: cs).takeWhile Char.isDigit = _)
  refine ⟨_, rest, happend, ?_, hall, hends⟩
  simp [h]

theorem HasFraction.fractionLength (h : HasFraction rest fraction after)
    : fractionLength rest = fraction.length + 1 := by
  obtain ⟨rfl, hrun⟩ := h
  obtain ⟨c, cs, rfl⟩ := List.exists_cons_of_ne_nil hrun.ne_nil
  have hc := hrun.isDigit c List.mem_cons_self
  have htake := hrun.takeWhile
  simp only [LexicalRule.fractionLength]
  rw [htake]
  simp [hc]

theorem fractionLength_eq_zero (h : ∀ fraction after, ¬ HasFraction rest fraction after)
    : fractionLength rest = 0 := by
  unfold fractionLength
  split
  · next cs =>
    split
    · next hdigit =>
      obtain ⟨c, hc, hc'⟩ := (Option.any_eq_true _ _).1 hdigit
      obtain ⟨cs, rfl⟩ := List.head?_eq_some_iff.1 hc
      obtain ⟨fraction, after, happend, hrun⟩ := exists_digitRun hc' cs
      exact absurd ⟨by rw [happend], hrun⟩ (h fraction after)
    · rfl
  · rfl

theorem length?_number_run (h : DigitRun whole rest)
    : number.length? (whole ++ rest)
        = if wordBoundary (whole ++ rest.take (fractionLength rest)) (rest.drop (fractionLength rest))
          then some (whole.length + fractionLength rest)
          else if wordBoundary whole rest then some whole.length else none := by
  have hpos : whole.length ≠ 0 := by
    rw [Ne, List.length_eq_zero_iff]
    exact h.ne_nil
  simp only [number]
  rw [h.takeWhile]
  rw [if_neg hpos]
  rw [List.drop_left, List.take_left]
  rw [List.take_length_add_append, List.drop_length_add_append]

theorem wordBoundary_append_left {a b : List Char} (h : b ≠ []) (rest : List Char)
    : wordBoundary (a ++ b) rest = wordBoundary b rest := by
  unfold wordBoundary
  rw [List.getLast?_append_of_ne_nil _ h]

theorem length?_number_fraction (h : DigitRun whole rest) (hfraction : HasFraction rest fraction after)
    (hends : EndsWord after)
    : number.length? (whole ++ rest) = some (whole ++ '.' :: fraction).length := by
  have hlength := hfraction.fractionLength
  rw [length?_number_run h, hlength]
  obtain ⟨rfl, hrun⟩ := hfraction
  rw [List.take_succ_cons, List.drop_succ_cons, List.take_left, List.drop_left]
  rw [List.append_cons, wordBoundary_append_left hrun.ne_nil]
  rw [if_pos ((wordBoundary_of_isName hrun.isName).2 hends)]
  simp

theorem length?_number_whole (h : DigitRun whole rest)
    (hfraction : ∀ fraction after, HasFraction rest fraction after → ¬ EndsWord after)
    : number.length? (whole ++ rest) = if wordBoundary whole rest then some whole.length else none := by
  rw [length?_number_run h]
  by_cases hsome : ∃ fraction after, HasFraction rest fraction after
  · obtain ⟨fraction, after, hrest⟩ := hsome
    have hlength := hrest.fractionLength
    have hgoes := hfraction fraction after hrest
    rw [hlength]
    obtain ⟨rfl, hrun⟩ := hrest
    rw [List.take_succ_cons, List.drop_succ_cons, List.take_left, List.drop_left]
    rw [List.append_cons, wordBoundary_append_left hrun.ne_nil]
    rw [if_neg (fun hboundary => hgoes ((wordBoundary_of_isName hrun.isName).1 hboundary))]
  · have hnone : ∀ fraction after, ¬ HasFraction rest fraction after := by
      intro fraction after hrest
      exact hsome ⟨fraction, after, hrest⟩
    rw [fractionLength_eq_zero hnone]
    rw [List.take_zero, List.append_nil, List.drop_zero, Nat.add_zero]
    split <;> rfl

end Runs

section Tries

def countdown : Nat → List Nat
  | 0 => []
  | n + 1 => (n + 1) :: countdown n

/-- The lengths that the pattern of a number tries, in its order: with all the digits, then with fewer, and each time with
as long a fraction as there is, then with shorter ones, and then without. -/
def numberTries (cs : List Char) : List Nat :=
  (countdown (cs.takeWhile Char.isDigit).length).flatMap fun n =>
    (countdown (fractionLength (cs.drop n) - 1)).map (n + 1 + ·) ++ [n]

theorem mem_countdown {n k : Nat} (h : k ∈ countdown n) : 0 < k ∧ k ≤ n := by
  induction n with
  | zero => simp [countdown] at h
  | succ n ih =>
    rw [countdown, List.mem_cons] at h
    rcases h with rfl | h
    · omega
    · have := ih h
      omega

variable {digits rest : List Char}

theorem DigitRun.wordBoundary_inside (h : DigitRun digits rest) {k : Nat} (hpos : 0 < k) (hlt : k < digits.length)
    (a : List Char)
    : wordBoundary (a ++ (digits ++ rest).take k) ((digits ++ rest).drop k) = false := by
  rw [List.take_append_of_le_length (by omega), List.drop_append_of_le_length (by omega)]
  have hne : digits.take k ≠ [] := by
    rw [Ne, List.take_eq_nil_iff, not_or]
    exact ⟨Nat.ne_of_gt hpos, h.ne_nil⟩
  have hname : Lexer.IsName (digits.take k) :=
    ⟨hne, fun c hc => h.isName.2 c (List.mem_of_mem_take hc)⟩
  have hnext : digits.drop k = digits[k] :: digits.drop (k + 1) := List.drop_eq_getElem_cons hlt
  rw [wordBoundary_append_left hne, ← Bool.not_eq_true, wordBoundary_of_isName hname]
  intro hends
  rw [hnext] at hends
  have hword := hends digits[k] rfl
  rw [(Lexer.classes_of_isNameChar (h.isName.2 _ (List.getElem_mem hlt))).1] at hword
  contradiction

theorem DigitRun.fractionLength_inside (h : DigitRun digits rest) {k : Nat} (hlt : k < digits.length)
    : fractionLength ((digits ++ rest).drop k) = 0 := by
  apply fractionLength_eq_zero
  rintro fraction after ⟨hpoint, -⟩
  rw [List.drop_append_of_le_length (by omega), List.drop_eq_getElem_cons hlt] at hpoint
  have hdigit := h.isDigit _ (List.getElem_mem hlt)
  rw [(List.cons.inj hpoint).1] at hdigit
  contradiction

def endsAt (cs : List Char) (n : Nat) : Bool :=
  wordBoundary (cs.take n) (cs.drop n)

theorem endsAt_append (whole rest : List Char) (k : Nat)
    : endsAt (whole ++ rest) (whole.length + k) = wordBoundary (whole ++ rest.take k) (rest.drop k) := by
  unfold endsAt
  rw [List.take_length_add_append, List.drop_length_add_append]

theorem find?_fraction {whole fraction after : List Char} (h : HasFraction rest fraction after)
    : ((countdown fraction.length).map (whole.length + 1 + ·)).find? (endsAt (whole ++ rest))
        = if endsAt (whole ++ rest) (whole.length + 1 + fraction.length)
          then some (whole.length + 1 + fraction.length) else none := by
  -- Of the tries with all digits and some fraction, only the first one can succeed.
  obtain ⟨rfl, hrun⟩ := h
  cases hlength : fraction.length with
  | zero => exact absurd (List.eq_nil_of_length_eq_zero hlength) hrun.ne_nil
  | succ m =>
    have hshorter : ((countdown m).map (whole.length + 1 + ·)).find? (endsAt (whole ++ '.' :: (fraction ++ after)))
        = none := by
      rw [List.find?_eq_none]
      intro k hk
      obtain ⟨j, hj, rfl⟩ := List.mem_map.1 hk
      obtain ⟨hpos, hle⟩ := mem_countdown hj
      have hinside := hrun.wordBoundary_inside hpos (by omega) (whole ++ ['.'])
      rw [List.append_cons]
      have hpoint := endsAt_append (whole ++ ['.']) (fraction ++ after) j
      rw [hinside, List.length_append, List.length_singleton] at hpoint
      rw [hpoint]
      decide
    rw [countdown, List.map_cons, List.find?_cons]
    rw [hshorter]
    cases endsAt (whole ++ '.' :: (fraction ++ after)) (whole.length + 1 + (m + 1)) with
    | false => rfl
    | true => rfl

/-- The rule takes the first spelling in the order of the pattern after which no word goes on. -/
theorem length?_number_eq_find? (cs : List Char)
    : number.length? cs = (numberTries cs).find? (endsAt cs) := by
  unfold numberTries
  cases hrun : cs.takeWhile Char.isDigit with
  | nil =>
    simp only [number, hrun]
    rfl
  | cons c digits =>
    obtain ⟨rest, rfl, hall, hends⟩ := takeWhile_eq_iff.1 hrun
    have h : DigitRun (c :: digits) rest := ⟨by simp, hall, hends⟩
    have hfewer : ((countdown digits.length).flatMap fun n =>
        (countdown (fractionLength ((c :: digits ++ rest).drop n) - 1)).map (n + 1 + ·) ++ [n]).find?
          (endsAt (c :: digits ++ rest)) = none := by
      -- with fewer digits there is no fraction, and a digit goes on
      rw [List.find?_eq_none]
      intro k hk
      obtain ⟨m, hm, hk⟩ := List.mem_flatMap.1 hk
      obtain ⟨hpos, hle⟩ := mem_countdown hm
      have hlt : m < (c :: digits).length := Nat.lt_succ_of_le hle
      rw [h.fractionLength_inside hlt] at hk
      obtain rfl : k = m := by simpa [countdown] using hk
      have hinside := h.wordBoundary_inside hpos hlt []
      rw [List.nil_append] at hinside
      unfold endsAt
      rw [hinside]
      decide
    have hwhole : endsAt (c :: digits ++ rest) (c :: digits).length = wordBoundary (c :: digits) rest := by
      have happend := endsAt_append (c :: digits) rest 0
      rw [List.take_zero, List.append_nil, List.drop_zero] at happend
      exact happend
    rw [List.length_cons, countdown, List.flatMap_cons, List.find?_append, hfewer, Option.or_none]
    rw [← List.length_cons, List.drop_left]
    rw [length?_number_run h]
    rw [List.find?_append, List.find?_singleton, hwhole]
    rw [← endsAt_append]
    by_cases hsome : ∃ fraction after, HasFraction rest fraction after
    · obtain ⟨fraction, after, hrest⟩ := hsome
      rw [hrest.fractionLength, Nat.add_sub_cancel, find?_fraction hrest]
      have hcomm : (c :: digits).length + (fraction.length + 1) = (c :: digits).length + 1 + fraction.length := by
        omega
      rw [hcomm]
      split
      · rfl
      · rfl
    · have hnone : fractionLength rest = 0 := by
        apply fractionLength_eq_zero
        intro fraction after hrest
        exact hsome ⟨fraction, after, hrest⟩
      rw [hnone, Nat.add_zero, hwhole]
      split
      · simp [countdown]
      · rfl

end Tries

end LexicalRule

namespace Lexer

open LexicalRule (DigitRun HasFraction EndsWord)

variable {lx : Lexer} {before : Option Char}

def StartsNoDigit (lx : Lexer) : Prop :=
  ∀ name ∈ lx.keywords, ∀ c ∈ name.head?, c.isDigit = false

theorem startsNoDigit_builtin : builtin.StartsNoDigit := by
  have hall : ∀ name ∈ Keyword.names, name.toList.head?.any Char.isDigit = false := by
    decide
  intro name hname c hc
  have hfirst := hall _ (mem_keywords.1 hname)
  rw [String.toList_ofList, Option.mem_def.1 hc] at hfirst
  exact hfirst

section Recognition

variable (hnames : ∀ name ∈ lx.keywords, IsName name) (hdigits : lx.StartsNoDigit)

include hnames hdigits

theorem recognize_digit (before : Option Char) {c : Char} (hc : c.isDigit = true) (cs : List Char)
    : lx.recognize before (c :: cs)
        = ((LexicalRule.number.match? before (c :: cs)).map (TokenClass.number, ·)).getD (.identifier, 1) := by
  -- At a digit, only the rule for numbers can recognise something.
  have hkeyword : (LexicalRule.keyword lx.keywords).length? (c :: cs) = none := by
    rw [LexicalRule.length?_keyword hnames]
    rw [if_neg]
    intro hmem
    have hword := (classes_of_isNameChar (LexicalRule.isNameChar_of_isDigit hc)).1
    rw [List.takeWhile_cons_of_pos hword] at hmem
    rw [hdigits _ hmem c rfl] at hc
    contradiction
  have hcomment : LexicalRule.comment.length? (c :: cs) = none := by
    simp only [LexicalRule.comment]
    rw [if_neg]
    intro hhash
    rw [Option.some.inj hhash] at hc
    contradiction
  have hne : c ≠ '"' := by
    rintro rfl
    contradiction
  have hinvalid : LexicalRule.invalidString.length? (c :: cs) = none := by
    simp [LexicalRule.invalidString, hne]
  have hstring : LexicalRule.string.length? (c :: cs) = none := by
    simp [LexicalRule.string, hne]
  have hidentifier : LexicalRule.identifier.length? (c :: cs) = none := by
    simp [LexicalRule.identifier, LexicalRule.isIdentifierStart_of_isDigit hc]
  simp only [recognize, rules, List.findSome?_cons, LexicalRule.match?_eq_none hkeyword,
    LexicalRule.match?_eq_none hcomment, LexicalRule.match?_eq_none hinvalid, LexicalRule.match?_eq_none hstring,
    LexicalRule.match?_eq_none hidentifier, Option.map_none]
  cases LexicalRule.number.match? before (c :: cs) with
  | none => rfl
  | some n => rfl

variable {whole rest : List Char}

theorem recognize_after_word (hbefore : before.any isWordChar = true) {c : Char} (hc : c.isDigit = true)
    (cs : List Char)
    : lx.recognize before (c :: cs) = (.identifier, 1) := by
  have hnone : LexicalRule.number.match? before (c :: cs) = none := by
    unfold LexicalRule.match?
    rw [hbefore]
    rfl
  rw [recognize_digit hnames hdigits before hc, hnone]
  rfl

theorem recognize_run (hbefore : before.any isWordChar = false) (h : DigitRun whole rest)
    : lx.recognize before (whole ++ rest)
        = ((LexicalRule.number.length? (whole ++ rest)).map (TokenClass.number, ·)).getD (.identifier, 1) := by
  obtain ⟨c, cs, rfl⟩ := List.exists_cons_of_ne_nil h.ne_nil
  have hpos : ∀ n, LexicalRule.number.length? (c :: cs ++ rest) = some n → 0 < n := by
    intro n hn
    rw [LexicalRule.length?_number_run h] at hn
    split at hn
    · rw [← Option.some.inj hn, List.length_cons]
      omega
    · split at hn
      · rw [← Option.some.inj hn]
        simp
      · contradiction
  have hmatch : LexicalRule.number.match? before (c :: cs ++ rest) = LexicalRule.number.length? (c :: cs ++ rest) := by
    unfold LexicalRule.match?
    rw [hbefore]
    cases hlength : LexicalRule.number.length? (c :: cs ++ rest) with
    | none => rfl
    | some n => simp [hpos n hlength]
  rw [← hmatch]
  exact recognize_digit hnames hdigits before (h.isDigit c List.mem_cons_self) (cs ++ rest)

theorem recognize_fraction (hbefore : before.any isWordChar = false) (h : DigitRun whole rest)
    {fraction after : List Char} (hfraction : HasFraction rest fraction after) (hends : EndsWord after)
    : lx.recognize before (whole ++ rest) = (.number, (whole ++ '.' :: fraction).length) := by
  rw [recognize_run hnames hdigits hbefore h]
  rw [LexicalRule.length?_number_fraction h hfraction hends]
  rfl

theorem recognize_whole (hbefore : before.any isWordChar = false) (h : DigitRun whole rest)
    (hfraction : ∀ fraction after, HasFraction rest fraction after → ¬ EndsWord after) (hends : EndsWord rest)
    : lx.recognize before (whole ++ rest) = (.number, whole.length) := by
  rw [recognize_run hnames hdigits hbefore h]
  rw [LexicalRule.length?_number_whole h hfraction]
  rw [if_pos ((LexicalRule.wordBoundary_of_isName h.isName).2 hends)]
  rfl

theorem recognize_digit_of_word (hbefore : before.any isWordChar = false) (h : DigitRun whole rest)
    (hfraction : ∀ fraction after, HasFraction rest fraction after → ¬ EndsWord after) (hends : ¬ EndsWord rest)
    : lx.recognize before (whole ++ rest) = (.identifier, 1) := by
  rw [recognize_run hnames hdigits hbefore h]
  rw [LexicalRule.length?_number_whole h hfraction]
  rw [if_neg (fun hboundary => hends ((LexicalRule.wordBoundary_of_isName h.isName).1 hboundary))]
  rfl

end Recognition

theorem isDigit_of_number (hnames : ∀ name ∈ lx.keywords, IsName name) {start : Nat} {line : List Char}
    {pre post : List Token} {t : Token} (h : lx.Cuts before start line (pre ++ t :: post))
    (hclass : t.tokenClass = .number)
    : ∃ c ∈ t.text.head?, c.isDigit = true := by
  have hshape := h.shape
  have hrec := h.split.2
  rw [hclass] at hshape hrec
  obtain ⟨c, cs, htext⟩ := List.exists_cons_of_ne_nil (h.text_ne_nil (t := t) (by simp))
  rw [htext] at hshape ⊢
  refine ⟨c, rfl, ?_⟩
  rcases hshape c List.mem_cons_self with hdigit | hpoint
  · exact hdigit
  · -- nothing begins with a point
    rw [List.flatMap_cons, htext, hpoint, List.cons_append] at hrec
    rw [recognize_single hnames _ (by decide) (by decide) (by decide)] at hrec
    exact absurd (Prod.mk.inj hrec).1 (by decide)

theorem token_eq {start : Nat} {line u v : List Char} {pre post : List Token} {t : Token} {c : TokenClass}
    (h : lx.Cuts before start line (pre ++ t :: post)) (hline : (t :: post).flatMap (·.text) = u ++ v)
    (hrec : lx.recognize ((pre.flatMap (·.text)).getLast?.or before) (u ++ v) = (c, u.length))
    : t.tokenClass = c ∧ t.text = u := by
  have htoken := h.split.2
  rw [hline, hrec] at htoken
  obtain ⟨hclass, hlength⟩ := Prod.mk.inj htoken
  exact ⟨hclass.symm, (text_eq_of_length hline hlength.symm).1⟩

theorem digit_eq {start : Nat} {line whole rest : List Char} {pre post : List Token} {t : Token}
    (h : lx.Cuts before start line (pre ++ t :: post)) (hline : (t :: post).flatMap (·.text) = whole ++ rest)
    (hrun : DigitRun whole rest)
    (hrec : lx.recognize ((pre.flatMap (·.text)).getLast?.or before) (whole ++ rest) = (.identifier, 1))
    : t.tokenClass = .identifier ∧ t.text = whole.take 1 := by
  obtain ⟨c, cs, rfl⟩ := List.exists_cons_of_ne_nil hrun.ne_nil
  exact token_eq (u := [c]) (v := cs ++ rest) h hline hrec

theorem number_iff_of_digits (line : List Char) (pre post : List Token) (t : Token)
    (h : builtin.tokenize line = pre ++ t :: post)
    : (t.tokenClass = .number → ∃ c ∈ t.text.head?, c.isDigit = true)
      ∧ (∀ c ∈ t.text.head?, c.isDigit = true →
        ∃ whole rest, (t :: post).flatMap (·.text) = whole ++ rest ∧ DigitRun whole rest)
      ∧ ∀ whole rest, (t :: post).flatMap (·.text) = whole ++ rest → DigitRun whole rest →
        ((∃ c ∈ (pre.flatMap (·.text)).getLast?, Unicode.isAlphanumeric c = true ∨ c = '_') →
          t.tokenClass = .identifier ∧ t.text = whole.take 1)
        ∧ ((∀ c ∈ (pre.flatMap (·.text)).getLast?, Unicode.isAlphanumeric c = false ∧ c ≠ '_') →
          (∀ fraction after, HasFraction rest fraction after → EndsWord after →
            t.tokenClass = .number ∧ t.text = whole ++ '.' :: fraction)
          ∧ ((∀ fraction after, HasFraction rest fraction after → ¬ EndsWord after) →
            (EndsWord rest → t.tokenClass = .number ∧ t.text = whole)
            ∧ (¬ EndsWord rest → t.tokenClass = .identifier ∧ t.text = whole.take 1))) := by
  have hcuts := cuts_tokenize h
  refine ⟨isDigit_of_number isName_builtin hcuts, ?_, ?_⟩
  · intro c hc hdigit
    obtain ⟨cs, htext⟩ := List.head?_eq_some_iff.1 hc
    obtain ⟨whole, rest, happend, hrun⟩ := LexicalRule.exists_digitRun hdigit (cs ++ post.flatMap (·.text))
    refine ⟨whole, rest, ?_, hrun⟩
    rw [← happend, List.flatMap_cons, htext]
    rfl
  intro whole rest hline hrun
  constructor
  · intro hword
    have hbefore : ((pre.flatMap (·.text)).getLast?.or none).any isWordChar = true := by
      obtain ⟨c, hc, hchar⟩ := hword
      rw [Option.or_none, Option.any_eq_true]
      refine ⟨c, hc, ?_⟩
      simpa [isWordChar] using hchar
    apply digit_eq hcuts hline hrun
    obtain ⟨c, cs, rfl⟩ := List.exists_cons_of_ne_nil hrun.ne_nil
    exact recognize_after_word isName_builtin startsNoDigit_builtin hbefore (hrun.isDigit c List.mem_cons_self) _
  · intro hapart
    have hbefore : ((pre.flatMap (·.text)).getLast?.or none).any isWordChar = false := by
      rw [Option.or_none, Option.any_eq_false]
      intro c hc
      rw [isWordChar_eq_false]
      exact hapart c hc
    constructor
    · intro fraction after hfraction hends
      have hrec := recognize_fraction isName_builtin startsNoDigit_builtin hbefore hrun hfraction hends
      have hsplit : whole ++ rest = (whole ++ '.' :: fraction) ++ after := by
        rw [hfraction.1]
        simp
      rw [hsplit] at hline hrec
      exact token_eq hcuts hline hrec
    · intro hfraction
      constructor
      · intro hends
        apply token_eq hcuts hline
        exact recognize_whole isName_builtin startsNoDigit_builtin hbefore hrun hfraction hends
      · intro hgoes
        apply digit_eq hcuts hline hrun
        exact recognize_digit_of_word isName_builtin startsNoDigit_builtin hbefore hrun hfraction hgoes

theorem number_iff_of_digits_version
    : builtin.tokenize "1.2.3a".toList
        = [] ++ ⟨"1.2".toList, .number, 0⟩ :: builtin.tokenizeFrom (some '2') 3 ".3a".toList
      ∧ DigitRun ['1'] ".2.3a".toList ∧ HasFraction ".2.3a".toList ['2'] ".3a".toList ∧ EndsWord ".3a".toList
      ∧ TokenClass.number = .number ∧ "1.2".toList = ['1'] ++ '.' :: ['2'] := by
  have hrun : DigitRun ['1'] ".2.3a".toList := ⟨by simp, by simp, by simp⟩
  have hfraction : HasFraction ".2.3a".toList ['2'] ".3a".toList := ⟨rfl, by simp, by simp, by simp⟩
  have hends : EndsWord ".3a".toList := LexicalRule.endsWord_point _
  have hrec : builtin.recognize none ("1.2".toList ++ ".3a".toList) = (.number, 3) :=
    recognize_fraction isName_builtin startsNoDigit_builtin rfl hrun hfraction hends
  have htokens : builtin.tokenize "1.2.3a".toList
      = [] ++ ⟨"1.2".toList, .number, 0⟩ :: builtin.tokenizeFrom (some '2') 3 ".3a".toList :=
    tokenizeFrom_append (by simp) hrec
  have hline : (⟨"1.2".toList, .number, 0⟩ :: builtin.tokenizeFrom (some '2') 3 ".3a".toList : List Token).flatMap (·.text)
      = ['1'] ++ ".2.3a".toList := by
    rw [List.flatMap_cons, (cuts_tokenizeFrom _ _ _).flatMap_text]
    rfl
  exact ⟨htokens, hrun, hfraction, hends,
    (((number_iff_of_digits _ _ _ _ htokens).2.2 _ _ hline hrun).2 (by simp)).1 _ _ hfraction hends⟩

end Lexer

end Workbench
