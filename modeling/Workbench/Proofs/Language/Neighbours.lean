import Workbench.Proofs.Language.Composition

/-!
What stands beside keywords. Words end at hyphens, which identifiers may contain: beside a keyword there is no letter,
no digit and no underscore, but there may be a hyphen, and it is a token of its own.
-/

namespace Workbench

open Text

namespace Lexer

variable {lx : Lexer} {before : Option Char} {start : Nat} {line : List Char} {pre post : List Token} {s t : Token}

theorem neighbours_of_keyword (hnames : ∀ name ∈ lx.keywords, IsName name)
    (h : lx.Cuts none 0 line (pre ++ t :: post)) (hclass : t.tokenClass = .keyword)
    : t.text ∈ lx.keywords ∧ (∀ c ∈ (pre.flatMap (·.text)).getLast?, isWordChar c = false)
      ∧ ∀ c ∈ (post.flatMap (·.text)).head?, Unicode.isWordCharacter c = false := by
  have hrec := h.split.2
  rw [hclass, List.flatMap_cons, Option.or_none] at hrec
  exact (recognize_eq_keyword_iff hnames _ _ _).1 hrec

theorem eq_hyphen {c : Char} (h : isWordChar c = false ∨ Unicode.isWordCharacter c = false)
    (hc : LexicalRule.isIdentifierChar c = true)
    : c = '-' := by
  rcases LexicalRule.isIdentifierChar_iff.1 hc with hname | hhyphen
  · obtain ⟨hword, hwordChar⟩ := classes_of_isNameChar hname
    simp_all
  · exact hhyphen

theorem text_of_hyphen_end (hnames : ∀ name ∈ lx.keywords, IsName name)
    (h : lx.Cuts before start line (pre ++ s :: post)) (hlast : s.text.getLast? = some '-') {c : Char}
    (hnext : (post.flatMap (·.text)).head? = some c) (hc : LexicalRule.isIdentifierChar c = true)
    : s.text = ['-'] := by
  have hmem : '-' ∈ s.text := List.mem_of_getLast? hlast
  have hshape := h.shape
  generalize s.tokenClass = found at hshape
  cases found with
  | keyword => exact absurd ((hnames _ hshape).2 _ hmem) (by decide)
  | comment =>
    rw [hshape.2.2 c hnext] at hc
    contradiction
  | string =>
    obtain ⟨u, htext, -⟩ := hshape
    rw [htext, List.getLast?_concat] at hlast
    contradiction
  | invalidString =>
    rw [hshape.1] at hnext
    contradiction
  | number =>
    rcases hshape _ hmem with hdigit | hdot
    · contradiction
    · contradiction
  | identifier =>
    rcases hshape with ⟨-, hrest⟩ | ⟨d, htext⟩
    · rw [hrest c hnext] at hc
      contradiction
    · rw [htext] at hmem ⊢
      rw [List.mem_singleton.1 hmem]

theorem text_of_hyphen_start (hnames : ∀ name ∈ lx.keywords, IsName name)
    (h : lx.Cuts before start line (pre ++ s :: post)) (hfirst : s.text.head? = some '-')
    : s.text = ['-'] := by
  have hrec := h.split.2
  obtain ⟨u, htext⟩ := List.head?_eq_some_iff.1 hfirst
  rw [List.flatMap_cons, htext, List.cons_append] at hrec
  rw [recognize_single hnames _ (by decide) (by decide) (by decide)] at hrec
  have hlength := (Prod.mk.inj hrec).2
  rw [List.length_cons] at hlength
  have hnil : u = [] := by
    apply List.eq_nil_of_length_eq_zero
    omega
  rw [htext, hnil]

theorem getLast?_flatMap_text (pre : List Token) (h : s.text ≠ [])
    : ((pre ++ [s]).flatMap (·.text)).getLast? = s.text.getLast? := by
  rw [List.flatMap_append, List.flatMap_singleton]
  rw [List.getLast?_append_of_ne_nil _ h]

theorem head?_flatMap_text (post : List Token) (h : s.text ≠ [])
    : ((s :: post).flatMap (·.text)).head? = s.text.head? := by
  obtain ⟨c, u, htext⟩ := List.exists_cons_of_ne_nil h
  rw [List.flatMap_cons, htext]
  rfl

theorem apart_before_iff (hnames : ∀ name ∈ lx.keywords, IsName name)
    (h : lx.Cuts none 0 line (pre ++ t :: post)) (hclass : t.tokenClass = .keyword)
    : (∀ c ∈ (pre.flatMap (·.text)).getLast?, LexicalRule.isIdentifierChar c = false)
        ↔ ∀ s ∈ pre.getLast?, s.text ≠ ['-'] := by
  obtain ⟨hname, hbefore, -⟩ := neighbours_of_keyword hnames h hclass
  rcases List.eq_nil_or_concat' pre with rfl | ⟨pre, s, rfl⟩
  · simp
  · rw [getLast?_flatMap_text pre (h.text_ne_nil (by simp))] at hbefore ⊢
    simp only [List.getLast?_concat, Option.mem_some_iff, forall_eq']
    constructor
    · intro hall htext
      have hhyphen := hall '-' (by simp [htext])
      contradiction
    · intro hne c hc
      rw [← Bool.not_eq_true]
      intro hchar
      rw [eq_hyphen (.inl (hbefore c hc)) hchar] at hc
      -- a keyword begins with a character that would have gone on with an identifier
      obtain ⟨d, u, htext⟩ := List.exists_cons_of_ne_nil (hnames _ hname).1
      have hd : LexicalRule.isIdentifierChar d = true := by
        rw [LexicalRule.isIdentifierChar_iff]
        exact .inl ((hnames _ hname).2 d (by simp [htext]))
      rw [List.append_assoc, List.singleton_append] at h
      apply hne
      apply text_of_hyphen_end hnames h hc
      · rw [List.flatMap_cons, htext]
        rfl
      · exact hd

theorem apart_after_iff (hnames : ∀ name ∈ lx.keywords, IsName name)
    (h : lx.Cuts none 0 line (pre ++ t :: post)) (hclass : t.tokenClass = .keyword)
    : (∀ c ∈ (post.flatMap (·.text)).head?, LexicalRule.isIdentifierChar c = false)
        ↔ ∀ s ∈ post.head?, s.text ≠ ['-'] := by
  obtain ⟨-, -, hafter⟩ := neighbours_of_keyword hnames h hclass
  cases post with
  | nil => simp
  | cons s post =>
    rw [head?_flatMap_text post (h.text_ne_nil (by simp))] at hafter ⊢
    simp only [List.head?_cons, Option.mem_some_iff, forall_eq']
    constructor
    · intro hall htext
      have hhyphen := hall '-' (by simp [htext])
      contradiction
    · intro hne c hc
      rw [← Bool.not_eq_true]
      intro hchar
      rw [eq_hyphen (.inr (hafter c hc)) hchar] at hc
      rw [List.append_cons] at h
      apply hne
      exact text_of_hyphen_start hnames h hc

theorem recognize_hyphen (hnames : ∀ name ∈ lx.keywords, IsName name) (before : Option Char) (rest : List Char)
    : lx.recognize before (['-'] ++ rest) = (.identifier, 1) := by
  exact recognize_single hnames before (by decide) (by decide) (by decide) rest

theorem exists_tokenize_before_hyphen (hnames : ∀ name ∈ lx.keywords, IsName name) {name : List Char}
    (hname : name ∈ lx.keywords) (rest : List Char)
    : ∃ tokens, lx.tokenize (name ++ '-' :: rest)
        = ⟨name, .keyword, 0⟩ :: ⟨['-'], .identifier, Utf8.size name⟩ :: tokens := by
  have hkeyword : lx.recognize none (name ++ (['-'] ++ rest)) = (.keyword, name.length) := by
    rw [recognize_eq_keyword_iff hnames]
    refine ⟨hname, by simp, ?_⟩
    intro c hc
    cases hc
    exact (classes_of_ascii (by decide)).1
  unfold tokenize
  rw [← List.singleton_append]
  rw [tokenizeFrom_append (hnames _ hname).1 hkeyword]
  rw [tokenizeFrom_append (by simp) (recognize_hyphen hnames _ _)]
  rw [Nat.zero_add]
  exact ⟨_, rfl⟩

theorem exists_tokenize_after_hyphen (hnames : ∀ name ∈ lx.keywords, IsName name) {name rest : List Char}
    (hname : name ∈ lx.keywords) (hrest : ∀ c ∈ rest.head?, Unicode.isWordCharacter c = false)
    : ∃ tokens, lx.tokenize ('-' :: (name ++ rest)) = ⟨['-'], .identifier, 0⟩ :: ⟨name, .keyword, 1⟩ :: tokens := by
  have hkeyword : lx.recognize (some '-') (name ++ rest) = (.keyword, name.length) := by
    rw [recognize_eq_keyword_iff hnames]
    refine ⟨hname, ?_, hrest⟩
    intro c hc
    cases hc
    exact (classes_of_ascii (by decide)).2
  unfold tokenize
  rw [← List.singleton_append]
  rw [tokenizeFrom_append (by simp) (recognize_hyphen hnames _ _)]
  rw [List.getLast?_singleton]
  rw [tokenizeFrom_append (hnames _ hname).1 hkeyword]
  exact ⟨_, rfl⟩

theorem keyword_apart_iff (line : List Char) (pre post : List Token) (t : Token)
    (h : builtin.tokenize line = pre ++ t :: post) (hclass : t.tokenClass = .keyword)
    : ((∀ c ∈ (pre.flatMap (·.text)).getLast?, LexicalRule.isIdentifierChar c = false)
          ↔ ∀ s ∈ pre.getLast?, s.text ≠ ['-'])
      ∧ ((∀ c ∈ (post.flatMap (·.text)).head?, LexicalRule.isIdentifierChar c = false)
          ↔ ∀ s ∈ post.head?, s.text ≠ ['-'])
      ∧ (∀ rest, ∃ tokens, builtin.tokenize (t.text ++ '-' :: rest)
          = ⟨t.text, .keyword, 0⟩ :: ⟨['-'], .identifier, Utf8.size t.text⟩ :: tokens)
      ∧ ∀ rest, (∀ c ∈ rest.head?, Unicode.isWordCharacter c = false) → ∃ tokens,
          builtin.tokenize ('-' :: (t.text ++ rest))
            = ⟨['-'], .identifier, 0⟩ :: ⟨t.text, .keyword, 1⟩ :: tokens := by
  have hcuts := cuts_tokenize h
  have hname := (neighbours_of_keyword isName_builtin hcuts hclass).1
  refine ⟨apart_before_iff isName_builtin hcuts hclass, apart_after_iff isName_builtin hcuts hclass, ?_, ?_⟩
  · intro rest
    exact exists_tokenize_before_hyphen isName_builtin hname rest
  · intro rest hrest
    exact exists_tokenize_after_hyphen isName_builtin hname hrest

theorem keyword_apart_get
    : builtin.tokenize "5 get-x".toList
        = [⟨['5'], .number, 0⟩, ⟨[' '], .identifier, 1⟩]
          ++ ⟨"get".toList, .keyword, 2⟩ :: [⟨['-'], .identifier, 5⟩, ⟨['x'], .identifier, 6⟩]
      ∧ (∀ c ∈ ['5', ' '].getLast?, LexicalRule.isIdentifierChar c = false)
      ∧ ¬∀ c ∈ ['-', 'x'].head?, LexicalRule.isIdentifierChar c = false := by
  have htokens : builtin.tokenize "5 get-x".toList
      = [⟨['5'], .number, 0⟩, ⟨[' '], .identifier, 1⟩]
        ++ ⟨"get".toList, .keyword, 2⟩ :: [⟨['-'], .identifier, 5⟩, ⟨['x'], .identifier, 6⟩] := by
    decide +kernel
  obtain ⟨hbefore, hafter, -, -⟩ := keyword_apart_iff _ _ _ _ htokens rfl
  refine ⟨htokens, hbefore.2 ?_, ?_⟩
  · intro s hs
    cases hs
    decide
  · intro hall
    exact hafter.1 hall _ rfl rfl

theorem tokenize_keyword_hyphen
    : (∃ tokens, builtin.tokenize "print-x".toList
        = ⟨"print".toList, .keyword, 0⟩ :: ⟨['-'], .identifier, 5⟩ :: tokens)
      ∧ LexicalRule.isIdentifierChar '-' = true := by
  have hname : "print".toList ∈ builtin.keywords := by
    decide
  constructor
  · exact exists_tokenize_before_hyphen isName_builtin hname ['x']
  · decide

end Lexer

end Workbench
