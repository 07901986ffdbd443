import Workbench.Proofs.Language.Tiling
import Workbench.Proofs.Text.Words

/-!
Which tokens are keywords. Names of letters, digits and underscores end where a run of word characters ends, so the
order of the names does not matter, and a token is a keyword if and only if it is a name that stands alone.
-/

namespace Workbench

open Text

namespace Lexer

def isNameChar (c : Char) : Bool :=
  c.isAlphanum || c = '_'

def IsName (name : List Char) : Prop :=
  name ≠ [] ∧ ∀ c ∈ name, isNameChar c = true

instance (name : List Char) : Decidable (IsName name) :=
  have : Decidable (∀ c ∈ name, isNameChar c = true) := List.decidableBAll _ name
  inferInstanceAs (Decidable (_ ∧ _))

theorem toNat_lt_of_isNameChar {c : Char} (h : isNameChar c = true) : c.toNat < 128 := by
  unfold isNameChar Char.isAlphanum Char.isAlpha Char.isUpper Char.isLower Char.isDigit at h
  simp only [Bool.or_eq_true, Bool.and_eq_true, decide_eq_true_eq, UInt32.le_iff_toNat_le, ge_iff_le] at h
  rcases h with ((h | h) | h) | h
  · exact Nat.lt_of_le_of_lt h.2 (by decide)
  · exact Nat.lt_of_le_of_lt h.2 (by decide)
  · exact Nat.lt_of_le_of_lt h.2 (by decide)
  · rw [h]
    decide

theorem classes_of_ascii {c : Char} (h : c.toNat < 128)
    : Unicode.isWordCharacter c = isNameChar c ∧ isWordChar c = isNameChar c := by
  have hall : ∀ n < 128, Unicode.isWordCharacter (Char.ofNat n) = isNameChar (Char.ofNat n)
      ∧ isWordChar (Char.ofNat n) = isNameChar (Char.ofNat n) := by
    decide +kernel
  have hc := hall c.toNat h
  rw [Char.ofNat_toNat] at hc
  exact hc

theorem classes_of_isNameChar {c : Char} (h : isNameChar c = true)
    : Unicode.isWordCharacter c = true ∧ isWordChar c = true := by
  have hc := classes_of_ascii (toNat_lt_of_isNameChar h)
  rw [h] at hc
  exact hc

end Lexer

theorem Keyword.isName_of_mem_names : ∀ name ∈ names, Lexer.IsName name.toList := by
  decide

namespace LexicalRule

open Lexer (IsName)

theorem wordBoundary_of_isName {name rest : List Char} (h : IsName name)
    : wordBoundary name rest = true ↔ ∀ c ∈ rest.head?, Unicode.isWordCharacter c = false := by
  have hlast : name.getLast?.any Unicode.isWordCharacter = true := by
    rw [List.getLast?_eq_some_getLast h.1]
    apply (Lexer.classes_of_isNameChar _).1
    apply h.2
    apply List.getLast_mem
  unfold wordBoundary
  rw [hlast]
  cases rest with
  | nil => simp
  | cons c rest => simp

theorem ends_iff {name cs : List Char} (h : IsName name)
    : (name.isPrefixOf cs && wordBoundary name (cs.drop name.length)) = true
        ↔ cs.takeWhile Unicode.isWordCharacter = name := by
  rw [takeWhile_eq_iff]
  rw [Bool.and_eq_true]
  rw [List.isPrefixOf_iff_prefix]
  constructor
  · rintro ⟨⟨rest, rfl⟩, hboundary⟩
    rw [List.drop_left] at hboundary
    refine ⟨rest, rfl, ?_, (wordBoundary_of_isName h).1 hboundary⟩
    intro c hc
    exact (Lexer.classes_of_isNameChar (h.2 c hc)).1
  · rintro ⟨rest, rfl, hall, hrest⟩
    rw [List.drop_left]
    constructor
    · apply List.prefix_append
    · exact (wordBoundary_of_isName h).2 hrest

theorem length?_keyword {names : List (List Char)} (h : ∀ name ∈ names, IsName name) (cs : List Char)
    : (keyword names).length? cs
        = if cs.takeWhile Unicode.isWordCharacter ∈ names
          then some (cs.takeWhile Unicode.isWordCharacter).length else none := by
  simp only [keyword]
  cases hfound : names.find? fun n => n.isPrefixOf cs && wordBoundary n (cs.drop n.length) with
  | none =>
    rw [List.find?_eq_none] at hfound
    rw [if_neg]
    · rfl
    · intro hmem
      apply hfound _ hmem
      apply (ends_iff (h _ hmem)).2
      rfl
  | some name =>
    have hname := List.mem_of_find?_eq_some hfound
    have hrun := List.find?_some hfound
    rw [ends_iff (h name hname)] at hrun
    rw [hrun]
    rw [if_pos hname]
    rfl

theorem match?_keyword {names : List (List Char)} (h : ∀ name ∈ names, IsName name) (before : Option Char)
    (cs : List Char)
    : (keyword names).match? before cs
        = if before.any isWordChar = false ∧ cs.takeWhile Unicode.isWordCharacter ∈ names
          then some (cs.takeWhile Unicode.isWordCharacter).length else none := by
  unfold match?
  rw [length?_keyword h]
  cases hbefore : before.any isWordChar with
  | true => simp [keyword]
  | false =>
    by_cases hmem : cs.takeWhile Unicode.isWordCharacter ∈ names
    · have hpos := List.length_pos_iff.2 (h _ hmem).1
      simp [hmem, hpos]
    · simp [hmem]

theorem keyword_of_mem_rules {lx : Lexer} {r : LexicalRule} (hr : r ∈ lx.rules) (h : r.tokenClass = .keyword)
    : r = keyword lx.keywords := by
  simp only [Lexer.rules, List.mem_cons, List.not_mem_nil, or_false] at hr
  rcases hr with rfl | rfl | rfl | rfl | rfl | rfl
  · rfl
  all_goals contradiction

end LexicalRule

namespace Lexer

variable {lx : Lexer}

theorem recognize_of_keyword {before : Option Char} {cs : List Char} {n : Nat}
    (h : (LexicalRule.keyword lx.keywords).match? before cs = some n)
    : lx.recognize before cs = (.keyword, n) := by
  unfold recognize rules
  rw [List.findSome?_cons]
  rw [h]
  rfl

theorem match?_of_recognize {before : Option Char} {cs : List Char}
    (h : (lx.recognize before cs).1 = .keyword)
    : (LexicalRule.keyword lx.keywords).match? before cs = some (lx.recognize before cs).2 := by
  unfold recognize at h ⊢
  cases hfound : lx.rules.findSome? fun r => (r.match? before cs).map (r.tokenClass, ·) with
  | none =>
    rw [hfound] at h
    contradiction
  | some found =>
    rw [hfound] at h
    obtain ⟨r, hr, hmatch⟩ := List.exists_of_findSome?_eq_some hfound
    obtain ⟨n, hn, rfl⟩ := Option.map_eq_some_iff.1 hmatch
    rw [← LexicalRule.keyword_of_mem_rules hr h]
    exact hn

theorem recognize_eq_keyword_iff (hnames : ∀ name ∈ lx.keywords, IsName name) (before : Option Char)
    (text rest : List Char)
    : lx.recognize before (text ++ rest) = (.keyword, text.length)
        ↔ text ∈ lx.keywords ∧ (∀ c ∈ before, isWordChar c = false)
          ∧ ∀ c ∈ rest.head?, Unicode.isWordCharacter c = false := by
  constructor
  · intro h
    have hmatch := match?_of_recognize (by rw [h])
    rw [h] at hmatch
    rw [LexicalRule.match?_keyword hnames] at hmatch
    split at hmatch
    next hfound =>
      have hlength := Option.some.inj hmatch
      rw [takeWhile_of_length hlength] at hfound
      exact ⟨hfound.2, (Option.any_eq_false _ _).1 hfound.1, (run_of_length hlength).2⟩
    next => contradiction
  · rintro ⟨htext, hbefore, hrest⟩
    have hrun : (text ++ rest).takeWhile Unicode.isWordCharacter = text := by
      rw [takeWhile_eq_iff]
      refine ⟨rest, rfl, ?_, hrest⟩
      intro c hc
      exact (classes_of_isNameChar ((hnames text htext).2 c hc)).1
    apply recognize_of_keyword
    rw [LexicalRule.match?_keyword hnames]
    rw [hrun]
    rw [if_pos ⟨(Option.any_eq_false _ _).2 hbefore, htext⟩]

theorem recognize_congr {ly : Lexer} (hx : ∀ name ∈ lx.keywords, IsName name)
    (h : ∀ name, name ∈ lx.keywords ↔ name ∈ ly.keywords) (before : Option Char) (cs : List Char)
    : lx.recognize before cs = ly.recognize before cs := by
  have hy : ∀ name ∈ ly.keywords, IsName name := by
    intro name hname
    exact hx name ((h name).2 hname)
  have hfirst : (LexicalRule.keyword lx.keywords).match? before cs
      = (LexicalRule.keyword ly.keywords).match? before cs := by
    rw [LexicalRule.match?_keyword hx, LexicalRule.match?_keyword hy]
    simp only [h]
  unfold recognize rules
  rw [List.findSome?_cons, List.findSome?_cons]
  rw [hfirst]
  rfl

theorem tokenizeFrom_congr {ly : Lexer} (hx : ∀ name ∈ lx.keywords, IsName name)
    (h : ∀ name, name ∈ lx.keywords ↔ name ∈ ly.keywords) (before : Option Char) (start : Nat) (cs : List Char)
    : lx.tokenizeFrom before start cs = ly.tokenizeFrom before start cs := by
  fun_induction lx.tokenizeFrom before start cs with
  | case1 => simp [tokenizeFrom]
  | case2 before start c cs found text ih =>
    rw [tokenizeFrom]
    rw [← recognize_congr hx h]
    rw [ih]

theorem mem_keywords {names : List String} {text : List Char}
    : text ∈ (withKeywords names).keywords ↔ String.ofList text ∈ names := by
  unfold withKeywords
  rw [List.mem_map]
  constructor
  · rintro ⟨name, hname, rfl⟩
    rw [String.ofList_toList]
    exact hname
  · intro h
    exact ⟨_, h, String.toList_ofList⟩

theorem isName_of_mem_keywords {names : List String} (h : ∀ name ∈ names, IsName name.toList)
    : ∀ name ∈ (withKeywords names).keywords, IsName name := by
  intro name hname
  have hmem := h _ (mem_keywords.1 hname)
  rw [String.toList_ofList] at hmem
  exact hmem

theorem isName_builtin : ∀ name ∈ builtin.keywords, IsName name := by
  apply isName_of_mem_keywords
  exact Keyword.isName_of_mem_names

theorem isWordChar_eq_false {c : Char}
    : isWordChar c = false ↔ Unicode.isAlphanumeric c = false ∧ c ≠ '_' := by
  simp [isWordChar]

theorem exists_tokenize_keyword (hnames : ∀ name ∈ lx.keywords, IsName name) {name : List Char}
    (h : name ∈ lx.keywords) (rest : List Char)
    : ∃ tokens, lx.tokenize (name ++ ' ' :: rest) = ⟨name, .keyword, 0⟩ :: tokens := by
  have hrec : lx.recognize none (name ++ ' ' :: rest) = (.keyword, name.length) := by
    rw [recognize_eq_keyword_iff hnames]
    refine ⟨h, by simp, ?_⟩
    intro c hc
    cases hc
    decide +kernel
  have hcuts : lx.Cuts none 0 (name ++ ' ' :: rest) (lx.tokenize (name ++ ' ' :: rest)) := by
    apply cuts_tokenizeFrom
  obtain ⟨text, c, rest', more, hline, htokens, hfirst⟩ := hcuts.exists_cons (by simp)
  rw [hrec] at hfirst
  obtain ⟨hclass, hlength⟩ := Prod.mk.inj hfirst
  rw [htokens]
  rw [← hclass]
  rw [← (List.append_inj hline hlength).1]
  exact ⟨more, rfl⟩

theorem tokenClass_eq_keyword_iff (names : List String) (hnames : ∀ name ∈ names, IsName name.toList)
    : (∀ line, ∀ t ∈ (withKeywords names).tokenize line,
        ∃ a b, line = a ++ t.text ++ b ∧ t.start = Utf8.size a
          ∧ (t.tokenClass = .keyword ↔ String.ofList t.text ∈ names
              ∧ (∀ c ∈ a.getLast?, Unicode.isAlphanumeric c = false ∧ c ≠ '_')
              ∧ ∀ c ∈ b.head?, Unicode.isWordCharacter c = false))
      ∧ (∀ name ∈ names, ∀ rest,
          ∃ tokens, (withKeywords names).tokenize (name.toList ++ ' ' :: rest) = ⟨name.toList, .keyword, 0⟩ :: tokens)
      ∧ ∀ others : List String, (∀ name, name ∈ names ↔ name ∈ others) →
          (withKeywords names).tokenize = (withKeywords others).tokenize := by
  have hkeywords := isName_of_mem_keywords hnames
  refine ⟨?_, ?_, ?_⟩
  · intro line t ht
    have hcuts : (withKeywords names).Cuts none 0 line ((withKeywords names).tokenize line) := by
      apply cuts_tokenizeFrom
    obtain ⟨a, b, hline, hstart, hrec⟩ := hcuts.exists_append ht
    refine ⟨a, b, hline, hstart, ?_⟩
    simp only [← isWordChar_eq_false, ← mem_keywords]
    rw [← recognize_eq_keyword_iff hkeywords]
    rw [hrec]
    simp
  · intro name hname rest
    apply exists_tokenize_keyword hkeywords
    rw [mem_keywords]
    rw [String.ofList_toList]
    exact hname
  · intro others hothers
    funext line
    apply tokenizeFrom_congr hkeywords
    intro name
    rw [mem_keywords, mem_keywords]
    apply hothers

theorem tokenClass_eq_keyword_letter
    : (∀ name ∈ ["let", "letter", "let"], IsName name.toList) ∧ "letter" ∈ ["let", "letter", "let"]
      ∧ ∃ tokens, (withKeywords ["let", "letter", "let"]).tokenize ("letter".toList ++ ' ' :: "let²".toList)
          = ⟨"letter".toList, .keyword, 0⟩ :: tokens := by
  have hnames : ∀ name ∈ ["let", "letter", "let"], IsName name.toList := by
    decide
  have hname : "letter" ∈ ["let", "letter", "let"] := by
    decide
  exact ⟨hnames, hname, (tokenClass_eq_keyword_iff _ hnames).2.1 _ hname _⟩

end Lexer

end Workbench
