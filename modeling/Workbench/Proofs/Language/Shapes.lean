import Workbench.Proofs.Language.Keywords
import Workbench.Proofs.Language.StringEnd

/-!
What tokens look like. The class of a token says which characters it may have, how it begins and ends and what may
follow it; a quote or a hash at a place says which rules can recognise something there.
-/

namespace Workbench

open Text

namespace LexicalRule

theorem isIdentifierChar_iff {c : Char} : isIdentifierChar c = true ↔ Lexer.isNameChar c = true ∨ c = '-' := by
  simp [isIdentifierChar, Lexer.isNameChar]

theorem length?_of_match? {r : LexicalRule} {before : Option Char} {cs : List Char} {n : Nat}
    (h : r.match? before cs = some n)
    : r.length? cs = some n := by
  unfold match? at h
  split at h
  · contradiction
  · exact (Option.filter_eq_some_iff.1 h).1

variable {text rest : List Char}

theorem mem_of_length?_keyword {names : List (List Char)}
    (h : (keyword names).length? (text ++ rest) = some text.length)
    : text ∈ names := by
  obtain ⟨name, hfound, hlength⟩ := Option.map_eq_some_iff.1 h
  have hname := List.find?_some hfound
  rw [Bool.and_eq_true] at hname
  have hprefix := List.isPrefixOf_iff_prefix.1 hname.1
  rw [List.prefix_iff_eq_take.1 hprefix, hlength, List.take_left] at hfound
  exact List.mem_of_find?_eq_some hfound

theorem line_of_length?_comment (h : comment.length? (text ++ rest) = some text.length)
    : (text ++ rest).head? = some '#' ∧ '\n' ∉ text ∧ ∀ c ∈ rest.head?, c = '\n' := by
  simp only [comment] at h
  split at h
  · next hhash =>
    obtain ⟨htext, hrest⟩ := run_of_length (Option.some.inj h)
    refine ⟨hhash, ?_, ?_⟩
    · intro hmem
      simpa using htext _ hmem
    · intro c hc
      simpa using hrest c hc
  · contradiction

theorem unclosed_of_length?_invalidString (h : invalidString.length? (text ++ rest) = some text.length)
    : rest = [] ∧ ∃ u, text = '"' :: u ∧ QuotesEscaped u ∧ escapesNext u = false := by
  simp only [invalidString] at h
  split at h
  · next cs heq =>
    split at h
    · next hunclosed =>
      have hlength := Option.some.inj h
      have hrest : rest = [] := by
        apply List.eq_nil_of_length_eq_zero
        have := congrArg List.length heq
        simp only [List.length_append, List.length_cons] at this
        omega
      have hends := StringEnd.ends_of cs
      rw [hunclosed] at hends
      rw [hrest, List.append_nil] at heq
      exact ⟨hrest, cs, heq, hends⟩
    · contradiction
  · contradiction

theorem closed_of_length?_string (h : string.length? (text ++ rest) = some text.length)
    : ∃ u, text = '"' :: u ++ ['"'] ∧ QuotesEscaped u ∧ escapesNext u = false := by
  simp only [string] at h
  split at h
  · next cs heq =>
    split at h
    · next n hclosed =>
      have hlength := Option.some.inj h
      have hends := StringEnd.ends_of cs
      rw [hclosed] at hends
      obtain ⟨u, v, rfl, rfl, hu, hescapes⟩ := hends
      have hsplit : text ++ rest = ('"' :: u ++ ['"']) ++ v := by
        rw [heq]
        simp
      refine ⟨u, (List.append_inj hsplit ?_).1, hu, hescapes⟩
      simp [← hlength]
    · contradiction
  · contradiction

theorem mem_take_fractionLength {cs : List Char} {c : Char} (h : c ∈ cs.take (fractionLength cs))
    : c.isDigit = true ∨ c = '.' := by
  unfold fractionLength at h
  split at h
  · next cs =>
    split at h
    · rw [List.take_succ_cons] at h
      rw [← List.prefix_iff_eq_take.1 (List.takeWhile_prefix Char.isDigit)] at h
      rcases List.mem_cons.1 h with hdot | hdigit
      · exact .inr hdot
      · exact .inl (List.mem_takeWhile_imp hdigit)
    · simp at h
  · simp at h

theorem digits_of_length?_number (h : number.length? (text ++ rest) = some text.length)
    : ∀ c ∈ text, c.isDigit = true ∨ c = '.' := by
  generalize hcs : text ++ rest = cs at h
  have htext : text = cs.take text.length := by
    rw [← hcs]
    rw [List.take_left]
  have hwhole := List.prefix_iff_eq_take.1 (List.takeWhile_prefix (l := cs) Char.isDigit)
  simp only [number] at h
  intro c hc
  rw [htext] at hc
  split at h
  · contradiction
  · split at h
    · rw [← Option.some.inj h] at hc
      rw [List.take_add] at hc
      rw [← hwhole] at hc
      rcases List.mem_append.1 hc with hdigit | hfraction
      · exact .inl (List.mem_takeWhile_imp hdigit)
      · exact mem_take_fractionLength hfraction
    · split at h
      · rw [← Option.some.inj h] at hc
        rw [← hwhole] at hc
        exact .inl (List.mem_takeWhile_imp hc)
      · contradiction

theorem run_of_length?_identifier (h : identifier.length? (text ++ rest) = some text.length)
    : (∀ c ∈ text, isIdentifierChar c = true) ∧ ∀ c ∈ rest.head?, isIdentifierChar c = false := by
  simp only [identifier] at h
  split at h
  · exact run_of_length (Option.some.inj h)
  · contradiction

theorem match?_eq_none {r : LexicalRule} {cs : List Char} (h : r.length? cs = none) (before : Option Char)
    : r.match? before cs = none := by
  unfold match?
  rw [h]
  split
  · rfl
  · rfl

theorem match?_eq_some {r : LexicalRule} {cs : List Char} {n : Nat} (hr : r.atWordStart = false)
    (h : r.length? cs = some (n + 1)) (before : Option Char)
    : r.match? before cs = some (n + 1) := by
  unfold match?
  rw [hr, h]
  rfl

theorem length?_keyword_cons {names : List (List Char)} (hnames : ∀ name ∈ names, Lexer.IsName name) {c : Char}
    (hc : Lexer.isNameChar c = false) (cs : List Char)
    : (keyword names).length? (c :: cs) = none := by
  rw [length?_keyword hnames]
  rw [if_neg]
  intro hmem
  obtain ⟨hne, hchars⟩ := hnames _ hmem
  -- a run that is not empty begins with the character
  cases hrun : (c :: cs).takeWhile Unicode.isWordCharacter with
  | nil => exact hne hrun
  | cons d run =>
    obtain ⟨rest, hrest, -⟩ := takeWhile_eq_iff.1 hrun
    have hname := hchars d (by simp [hrun])
    rw [← (List.cons.inj hrest).1, hc] at hname
    contradiction

end LexicalRule

namespace Lexer

variable {lx : Lexer}

theorem recognize_comment (hnames : ∀ name ∈ lx.keywords, IsName name) (before : Option Char) (cs : List Char)
    : lx.recognize before ('#' :: cs) = (.comment, (cs.takeWhile (· ≠ '\n')).length + 1) := by
  have hkeyword := LexicalRule.length?_keyword_cons hnames (c := '#') (by decide) cs
  have hcomment : LexicalRule.comment.length? ('#' :: cs) = some ((cs.takeWhile (· ≠ '\n')).length + 1) := by
    simp [LexicalRule.comment]
  unfold recognize rules
  rw [List.findSome?_cons, LexicalRule.match?_eq_none hkeyword]
  rw [Option.map_none]
  rw [List.findSome?_cons, LexicalRule.match?_eq_some rfl hcomment]
  rfl

theorem recognize_hash (hnames : ∀ name ∈ lx.keywords, IsName name) (before : Option Char) (cs : List Char)
    : (lx.recognize before ('#' :: cs)).1 = .comment := by
  rw [recognize_comment hnames]

theorem recognize_quote (hnames : ∀ name ∈ lx.keywords, IsName name) (before : Option Char) (cs : List Char)
    : lx.recognize before ('"' :: cs) = (StringEnd.of cs).token cs.length := by
  have hkeyword := LexicalRule.length?_keyword_cons hnames (c := '"') (by decide) cs
  have hcomment : LexicalRule.comment.length? ('"' :: cs) = none := by
    simp [LexicalRule.comment]
  have hnumber : LexicalRule.number.length? ('"' :: cs) = none := by
    simp [LexicalRule.number]
  have hidentifier : LexicalRule.identifier.length? ('"' :: cs) = none := by
    simp [LexicalRule.identifier, LexicalRule.isIdentifierStart]
  simp only [recognize, rules, List.findSome?_cons, LexicalRule.match?_eq_none hkeyword,
    LexicalRule.match?_eq_none hcomment, LexicalRule.match?_eq_none hnumber,
    LexicalRule.match?_eq_none hidentifier, Option.map_none]
  -- only the two rules for strings are left
  cases hend : StringEnd.of cs with
  | closed n =>
    have hinvalid : LexicalRule.invalidString.length? ('"' :: cs) = none := by
      simp [LexicalRule.invalidString, hend]
    have hstring : LexicalRule.string.length? ('"' :: cs) = some (n + 1 + 1) := by
      simp [LexicalRule.string, hend]
    rw [LexicalRule.match?_eq_none hinvalid, LexicalRule.match?_eq_some rfl hstring]
    rfl
  | unclosed =>
    have hinvalid : LexicalRule.invalidString.length? ('"' :: cs) = some (cs.length + 1) := by
      simp [LexicalRule.invalidString, hend]
    rw [LexicalRule.match?_eq_some rfl hinvalid]
    rfl
  | broken =>
    have hinvalid : LexicalRule.invalidString.length? ('"' :: cs) = none := by
      simp [LexicalRule.invalidString, hend]
    have hstring : LexicalRule.string.length? ('"' :: cs) = none := by
      simp [LexicalRule.string, hend]
    rw [LexicalRule.match?_eq_none hinvalid, LexicalRule.match?_eq_none hstring]
    rfl

theorem recognize_single (hnames : ∀ name ∈ lx.keywords, IsName name) (before : Option Char) {c : Char}
    (hname : isNameChar c = false) (hhash : c ≠ '#') (hquote : c ≠ '"') (cs : List Char)
    : lx.recognize before (c :: cs) = (.identifier, 1) := by
  have hnone : ∀ r ∈ lx.rules, r.length? (c :: cs) = none := by
    intro r hr
    simp only [rules, List.mem_cons, List.not_mem_nil, or_false] at hr
    have hdigit : c.isDigit = false := by
      unfold isNameChar Char.isAlphanum at hname
      simp_all
    have hstart : LexicalRule.isIdentifierStart c = false := by
      unfold isNameChar Char.isAlphanum at hname
      unfold LexicalRule.isIdentifierStart
      simp_all
    rcases hr with rfl | rfl | rfl | rfl | rfl | rfl
    · exact LexicalRule.length?_keyword_cons hnames hname cs
    · simp [LexicalRule.comment, hhash]
    · simp [LexicalRule.invalidString, hquote]
    · simp [LexicalRule.string, hquote]
    · simp [LexicalRule.number, hdigit]
    · simp [LexicalRule.identifier, hstart]
  unfold recognize
  rw [List.findSome?_eq_none_iff.2]
  · rfl
  · intro r hr
    rw [LexicalRule.match?_eq_none (hnone r hr)]
    rfl

def Shape (lx : Lexer) (text rest : List Char) : TokenClass → Prop
  | .keyword => text ∈ lx.keywords
  | .comment => (text ++ rest).head? = some '#' ∧ '\n' ∉ text ∧ ∀ c ∈ rest.head?, c = '\n'
  | .string => ∃ u, text = '"' :: u ++ ['"'] ∧ QuotesEscaped u ∧ escapesNext u = false
  | .invalidString => rest = [] ∧ ∃ u, text = '"' :: u ∧ QuotesEscaped u ∧ escapesNext u = false
  | .number => ∀ c ∈ text, c.isDigit = true ∨ c = '.'
  | .identifier =>
    ((∀ c ∈ text, LexicalRule.isIdentifierChar c = true)
      ∧ ∀ c ∈ rest.head?, LexicalRule.isIdentifierChar c = false) ∨ ∃ c, text = [c]

theorem shape_of_length? {r : LexicalRule} {text rest : List Char} (hr : r ∈ lx.rules)
    (h : r.length? (text ++ rest) = some text.length)
    : lx.Shape text rest r.tokenClass := by
  simp only [rules, List.mem_cons, List.not_mem_nil, or_false] at hr
  rcases hr with rfl | rfl | rfl | rfl | rfl | rfl
  · exact LexicalRule.mem_of_length?_keyword h
  · exact LexicalRule.line_of_length?_comment h
  · exact LexicalRule.unclosed_of_length?_invalidString h
  · exact LexicalRule.closed_of_length?_string h
  · exact LexicalRule.digits_of_length?_number h
  · exact .inl (LexicalRule.run_of_length?_identifier h)

theorem shape_of_recognize {before : Option Char} {text rest : List Char} {c : TokenClass}
    (h : lx.recognize before (text ++ rest) = (c, text.length))
    : lx.Shape text rest c := by
  unfold recognize at h
  cases hfound : lx.rules.findSome? fun r => (r.match? before (text ++ rest)).map (r.tokenClass, ·) with
  | none =>
    rw [hfound] at h
    obtain ⟨rfl, hlength⟩ := Prod.mk.inj h
    exact .inr (List.length_eq_one_iff.1 hlength.symm)
  | some found =>
    rw [hfound] at h
    obtain ⟨r, hr, hmatch⟩ := List.exists_of_findSome?_eq_some hfound
    obtain ⟨n, hn, rfl⟩ := Option.map_eq_some_iff.1 hmatch
    obtain ⟨rfl, rfl⟩ := Prod.mk.inj h
    exact shape_of_length? hr (LexicalRule.length?_of_match? hn)

theorem Cuts.shape {before : Option Char} {start : Nat} {cs : List Char} {pre post : List Token} {t : Token}
    (h : lx.Cuts before start cs (pre ++ t :: post))
    : lx.Shape t.text (post.flatMap (·.text)) t.tokenClass := by
  have hrec := h.split.2
  rw [List.flatMap_cons] at hrec
  exact shape_of_recognize hrec

end Lexer

end Workbench
