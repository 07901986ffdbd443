import Workbench.Proofs.Language.Composition

/-!
Where quotes lead. After a quote that begins a token, the first quote that is not escaped closes the string, and what
follows is cut as if it were a line of its own. Without such a quote the rest of the line is an invalid string, unless it
ends in a backslash that escapes nothing: then the quote is a token of its own.
-/

namespace Workbench

open Text

namespace Lexer

variable {lx : Lexer} {before : Option Char} {start : Nat} {line cs : List Char} {pre post : List Token} {t : Token}

theorem token_of_quote (hnames : ∀ name ∈ lx.keywords, IsName name)
    (h : lx.Cuts before start line (pre ++ t :: post))
    (hquote : (t :: post).flatMap (·.text) = '"' :: cs)
    : (StringEnd.of cs).token cs.length = (t.tokenClass, t.text.length) := by
  rw [← recognize_quote hnames]
  rw [← hquote]
  exact h.split.2

theorem line_eq (h : lx.Cuts before start line (pre ++ t :: post))
    : line = pre.flatMap (·.text) ++ (t :: post).flatMap (·.text) := by
  rw [← h.flatMap_text]
  rw [List.flatMap_append]

theorem text_eq_of_length {u v : List Char} (h : (t :: post).flatMap (·.text) = u ++ v)
    (hlength : t.text.length = u.length)
    : t.text = u ∧ post.flatMap (·.text) = v := by
  rw [List.flatMap_cons] at h
  exact List.append_inj h hlength

theorem string_of_closed (hnames : ∀ name ∈ lx.keywords, IsName name)
    (h : lx.Cuts before start line (pre ++ t :: post))
    (hquote : (t :: post).flatMap (·.text) = '"' :: cs) {n : Nat} (hclosed : StringEnd.of cs = .closed n)
    : ∃ u v, cs = u ++ '"' :: v ∧ QuotesEscaped u ∧ escapesNext u = false
        ∧ t.tokenClass = .string ∧ t.text = '"' :: u ++ ['"']
        ∧ post = (lx.tokenize v).map (.shift t.stop) := by
  have htoken := token_of_quote hnames h hquote
  have hends := StringEnd.ends_of cs
  rw [hclosed] at htoken hends
  obtain ⟨u, v, rfl, rfl, hu, hescapes⟩ := hends
  obtain ⟨hclass, hlength⟩ := Prod.mk.inj htoken
  have hsplit : (t :: post).flatMap (·.text) = ('"' :: u ++ ['"']) ++ v := by
    rw [hquote]
    simp
  obtain ⟨htext, hrest⟩ := text_eq_of_length hsplit (by simp [← hlength])
  refine ⟨u, v, rfl, hu, hescapes, hclass.symm, htext, ?_⟩
  have hafter := h.after
  have hlast : t.text.getLast? = some '"' := by
    rw [htext]
    apply List.getLast?_concat
  rw [hrest, hlast] at hafter
  have hword : (some '"').any isWordChar = false := (classes_of_ascii (c := '"') (by decide)).2
  have hshift := lx.cuts_shift hword t.stop v
  rw [hafter.eq_tokenizeFrom]
  rw [hshift.eq_tokenizeFrom]

theorem invalidString_of_unclosed (hnames : ∀ name ∈ lx.keywords, IsName name)
    (h : lx.Cuts before start line (pre ++ t :: post)) (hquote : (t :: post).flatMap (·.text) = '"' :: cs)
    (hunclosed : StringEnd.of cs = .unclosed)
    : t.tokenClass = .invalidString ∧ t.text = '"' :: cs ∧ post = [] := by
  have htoken := token_of_quote hnames h hquote
  rw [hunclosed] at htoken
  obtain ⟨hclass, hlength⟩ := Prod.mk.inj htoken
  rw [← List.append_nil ('"' :: cs)] at hquote
  obtain ⟨htext, hrest⟩ := text_eq_of_length hquote (by simp [← hlength])
  refine ⟨hclass.symm, htext, ?_⟩
  have hafter := h.after
  rw [hrest] at hafter
  rw [hafter.eq_tokenizeFrom]
  simp [tokenizeFrom]

theorem identifier_of_broken (hnames : ∀ name ∈ lx.keywords, IsName name)
    (h : lx.Cuts before start line (pre ++ t :: post))
    (hquote : (t :: post).flatMap (·.text) = '"' :: cs) (hbroken : StringEnd.of cs = .broken)
    : t.tokenClass = .identifier ∧ t.text = ['"'] := by
  have htoken := token_of_quote hnames h hquote
  rw [hbroken] at htoken
  obtain ⟨hclass, hlength⟩ := Prod.mk.inj htoken
  have hsplit : (t :: post).flatMap (·.text) = ['"'] ++ cs := hquote
  exact ⟨hclass.symm, (text_eq_of_length hsplit (by simp [← hlength])).1⟩

theorem text_of_identifier (h : lx.Cuts before start line (pre ++ t :: post)) (hclass : t.tokenClass = .identifier)
    (hquote : '"' ∈ t.text)
    : t.text = ['"'] := by
  have hshape := h.shape
  rw [hclass] at hshape
  rcases hshape with ⟨hchars, -⟩ | ⟨c, htext⟩
  · have hchar := hchars _ hquote
    contradiction
  · rw [htext] at hquote ⊢
    rw [List.mem_singleton.1 hquote]

/-- A quote that begins a token and that nothing closes is the beginning of an invalid string, to the end of the line,
if and only if the line ends in an even number of backslashes. Otherwise, and only then, it is an identifier. -/
theorem invalidString_iff (line : List Char) (hline : '\n' ∉ line) (pre post : List Token) (t : Token)
    (h : builtin.tokenize line = pre ++ t :: post)
    : (∀ cs, (t :: post).flatMap (·.text) = '"' :: cs → QuotesEscaped cs →
        (t.tokenClass = .invalidString ∧ t.text = '"' :: cs ∧ post = [] ↔ backslashes line % 2 = 0)
        ∧ (t.tokenClass = .identifier ∧ t.text = ['"'] ↔ backslashes line % 2 = 1))
      ∧ ('"' ∈ t.text → t.tokenClass = .identifier →
        ∃ cs, (t :: post).flatMap (·.text) = '"' :: cs ∧ QuotesEscaped cs ∧ backslashes line % 2 = 1) := by
  have hcuts := cuts_tokenize h
  have hrest : ∀ cs, (t :: post).flatMap (·.text) = '"' :: cs →
      '\n' ∉ cs ∧ backslashes line = backslashes cs := by
    intro cs hquote
    have hsplit := line_eq hcuts
    rw [hquote] at hsplit
    constructor
    · simp_all
    · rw [hsplit]
      apply backslashes_append_quote
  constructor
  · intro cs hquote hescaped
    obtain ⟨hfree, hbackslashes⟩ := hrest cs hquote
    have hend := StringEnd.of_eq_of_quotesEscaped hfree hescaped
    rw [hbackslashes]
    cases hescapes : escapesNext cs with
    | true =>
      rw [hescapes, if_pos rfl] at hend
      have hodd := (escapesNext_iff cs).1 hescapes
      obtain ⟨hclass, htext⟩ := identifier_of_broken isName_builtin hcuts hquote hend
      simp [hclass, htext, hodd]
    | false =>
      rw [hescapes, if_neg (by decide)] at hend
      have heven : backslashes cs % 2 = 0 := by
        have := escapesNext_iff cs
        simp_all
      obtain ⟨hclass, htext, hpost⟩ := invalidString_of_unclosed isName_builtin hcuts hquote hend
      simp [hclass, htext, hpost, heven]
  · intro hmem hclass
    have htext := text_of_identifier hcuts hclass hmem
    have hquote : (t :: post).flatMap (·.text) = '"' :: post.flatMap (·.text) := by
      rw [List.flatMap_cons, htext]
      rfl
    obtain ⟨hfree, hbackslashes⟩ := hrest _ hquote
    have htoken := token_of_quote isName_builtin hcuts hquote
    rw [hclass, htext] at htoken
    have hends := StringEnd.ends_of (post.flatMap (·.text))
    refine ⟨_, hquote, ?_⟩
    cases hend : StringEnd.of (post.flatMap (·.text)) with
    | closed n =>
      rw [hend] at htoken
      cases htoken
    | unclosed =>
      rw [hend] at htoken
      cases htoken
    | broken =>
      rw [hend] at hends
      obtain ⟨hescaped, hescapes⟩ := hends hfree
      rw [hbackslashes]
      exact ⟨hescaped, (escapesNext_iff _).1 hescapes⟩

theorem invalidString_iff_escaped
    : '\n' ∉ "get \"a\\\"b\\\\".toList
      ∧ builtin.tokenize "get \"a\\\"b\\\\".toList
        = [⟨"get".toList, .keyword, 0⟩, ⟨[' '], .identifier, 3⟩]
          ++ ⟨"\"a\\\"b\\\\".toList, .invalidString, 4⟩ :: []
      ∧ QuotesEscaped "a\\\"b\\\\".toList ∧ backslashes "get \"a\\\"b\\\\".toList % 2 = 0 := by
  have hline : '\n' ∉ "get \"a\\\"b\\\\".toList := by
    decide
  have htokens : builtin.tokenize "get \"a\\\"b\\\\".toList
      = [⟨"get".toList, .keyword, 0⟩, ⟨[' '], .identifier, 3⟩]
        ++ ⟨"\"a\\\"b\\\\".toList, .invalidString, 4⟩ :: [] := by
    decide +kernel
  have hescaped : QuotesEscaped "a\\\"b\\\\".toList := (StringEnd.ends_of "a\\\"b\\\\".toList).1
  exact ⟨hline, htokens, hescaped, ((invalidString_iff _ hline _ _ _ htokens).1 _ rfl hescaped).1.1 ⟨rfl, rfl, rfl⟩⟩

theorem tokenize_quote_backslash
    : '\n' ∉ ['"', '\\'] ∧ QuotesEscaped ['\\']
      ∧ ∃ tokens, builtin.tokenize ['"', '\\'] = ⟨['"'], .identifier, 0⟩ :: tokens := by
  have hquote : builtin.recognize none (['"'] ++ ['\\']) = (.identifier, 1) :=
    recognize_quote isName_builtin none ['\\']
  exact ⟨by decide, quotesEscaped_singleton (by decide), _, tokenizeFrom_append (by simp) hquote⟩

theorem string_of_closing_quote (line : List Char) (hline : '\n' ∉ line) (pre post : List Token) (t : Token)
    (h : builtin.tokenize line = pre ++ t :: post)
    : (∀ a b, (t :: post).flatMap (·.text) = '"' :: a ++ '"' :: b → escapesNext a = false →
        ∃ u v, a ++ '"' :: b = u ++ '"' :: v ∧ QuotesEscaped u ∧ escapesNext u = false
          ∧ t.tokenClass = .string ∧ t.text = '"' :: u ++ ['"']
          ∧ post = (builtin.tokenize v).map (.shift t.stop))
      ∧ (t.tokenClass = .string → ∃ u, t.text = '"' :: u ++ ['"'] ∧ QuotesEscaped u ∧ escapesNext u = false) := by
  have hcuts := cuts_tokenize h
  constructor
  · intro a b hquote hescapes
    have hfree : '\n' ∉ a ++ '"' :: b := by
      rw [line_eq hcuts, hquote] at hline
      simp_all
    obtain ⟨n, hclosed⟩ := StringEnd.exists_of_eq_closed hfree hescapes
    exact string_of_closed isName_builtin hcuts hquote hclosed
  · intro hclass
    have hshape := hcuts.shape
    rw [hclass] at hshape
    exact hshape

theorem string_of_closing_quote_first
    : '\n' ∉ "\"a\\\"b\" \"c\"".toList
      ∧ builtin.tokenize "\"a\\\"b\" \"c\"".toList
        = [] ++ ⟨"\"a\\\"b\"".toList, .string, 0⟩
          :: [⟨[' '], .identifier, 6⟩, ⟨"\"c\"".toList, .string, 7⟩]
      ∧ escapesNext "a\\\"b\" \"c".toList = false
      ∧ ∃ u v, "a\\\"b\" \"c".toList ++ ['"'] = u ++ '"' :: v ∧ QuotesEscaped u ∧ escapesNext u = false
        ∧ TokenClass.string = .string ∧ "\"a\\\"b\"".toList = '"' :: u ++ ['"']
        ∧ ([⟨[' '], .identifier, 6⟩, ⟨"\"c\"".toList, .string, 7⟩] : List Token)
          = (builtin.tokenize v).map (.shift 6) := by
  have hline : '\n' ∉ "\"a\\\"b\" \"c\"".toList := by
    decide
  have htokens : builtin.tokenize "\"a\\\"b\" \"c\"".toList
      = [] ++ ⟨"\"a\\\"b\"".toList, .string, 0⟩
        :: [⟨[' '], .identifier, 6⟩, ⟨"\"c\"".toList, .string, 7⟩] := by
    decide +kernel
  have hescapes : escapesNext "a\\\"b\" \"c".toList = false := by
    decide
  exact ⟨hline, htokens, hescapes, (string_of_closing_quote _ hline _ _ _ htokens).1 _ [] rfl hescapes⟩

end Lexer

end Workbench
