import Workbench.Proofs.Language.Strings

/-!
Where hashes lead. A hash belongs to a comment or to a string. A comment runs to the end of its line, as a string that is
not closed does, and what stands before it is cut whatever the comment says, unless there is a quote alone: then a quote
in the comment would close a string.
-/

namespace Workbench

open Text

theorem LexicalRule.isSeparator_hash : isSeparator '#' = true := by
  rw [isSeparator_iff]
  exact ⟨(Lexer.classes_of_ascii (by decide)).1, by decide, by decide⟩

namespace Lexer

variable {lx : Lexer} {before : Option Char} {start : Nat} {line : List Char} {pre post : List Token} {t : Token}

namespace Cuts

theorem eq_nil {tokens : List Token} (h : lx.Cuts before start [] tokens) : tokens = [] := by
  rw [h.eq_tokenizeFrom]
  simp [tokenizeFrom]

theorem exists_at {a b : List Char} {c : Char} {tokens : List Token} (h : lx.Cuts before start line tokens)
    (hline : line = a ++ c :: b)
    : ∃ pre t post u v, tokens = pre ++ t :: post ∧ a = pre.flatMap (·.text) ++ u ∧ t.text = u ++ c :: v := by
  induction h generalizing a with
  | nil => simp at hline
  | @cons before start text rest class' tokens hne hrec hcuts ih =>
    have hlater : ∀ a', a = text ++ a' → rest = a' ++ c :: b →
        ∃ pre t post u v, ⟨text, class', start⟩ :: tokens = pre ++ t :: post
          ∧ a = pre.flatMap (·.text) ++ u ∧ t.text = u ++ c :: v := by
      rintro a' rfl hrest
      obtain ⟨pre, t, post, u, v, rfl, rfl, htext⟩ := ih hrest
      exact ⟨⟨text, class', start⟩ :: pre, t, post, u, v, rfl, by simp, htext⟩
    rcases List.append_eq_append_iff.1 hline with ⟨a', ha, hrest⟩ | ⟨u, rfl, hrest⟩
    · exact hlater a' ha hrest
    · cases u with
      | nil => exact hlater [] (by simp) hrest.symm
      | cons d u =>
        obtain ⟨rfl, -⟩ := List.cons.inj hrest
        exact ⟨[], _, tokens, a, u, rfl, rfl, rfl⟩

end Cuts

theorem tokenClass_of_hash (hnames : ∀ name ∈ lx.keywords, IsName name)
    (h : lx.Cuts before start line (pre ++ t :: post)) (hhash : '#' ∈ t.text)
    : t.tokenClass = .comment ∨ t.tokenClass = .string ∨ t.tokenClass = .invalidString := by
  have hshape := h.shape
  have hrec := h.split.2
  generalize t.tokenClass = found at hshape hrec ⊢
  cases found with
  | keyword => exact absurd ((hnames _ hshape).2 _ hhash) (by decide)
  | comment => exact .inl rfl
  | string => exact .inr (.inl rfl)
  | invalidString => exact .inr (.inr rfl)
  | number =>
    rcases hshape _ hhash with hdigit | hdot
    · contradiction
    · contradiction
  | identifier =>
    rcases hshape with ⟨hchars, -⟩ | ⟨c, htext⟩
    · exact absurd (hchars _ hhash) (by decide)
    · -- alone, a hash would have been a comment
      rw [htext] at hhash
      rw [List.flatMap_cons, htext, ← List.mem_singleton.1 hhash, List.singleton_append] at hrec
      rw [recognize_comment hnames] at hrec
      exact absurd (Prod.mk.inj hrec).1 (by decide)

theorem post_eq_nil (hline : '\n' ∉ line) (h : lx.Cuts before start line (pre ++ t :: post))
    (hclass : t.tokenClass = .comment ∨ t.tokenClass = .invalidString)
    : post = [] := by
  have hrest : post.flatMap (·.text) = [] := by
    have hshape := h.shape
    rcases hclass with hclass | hclass
    · rw [hclass] at hshape
      cases hpost : post.flatMap (·.text) with
      | nil => rfl
      | cons c rest =>
        -- a comment ends only before a line feed
        rw [hpost] at hshape
        rw [line_eq h, List.flatMap_cons, hpost, hshape.2.2 c rfl] at hline
        simp at hline
    · rw [hclass] at hshape
      exact hshape.1
  have hafter := h.after
  rw [hrest] at hafter
  exact hafter.eq_nil

theorem complete_before (hline : '\n' ∉ line) (h : lx.Cuts before start line (pre ++ t :: post)) {s : Token}
    (hs : s ∈ pre)
    : s.tokenClass ≠ .comment ∧ s.tokenClass ≠ .invalidString := by
  obtain ⟨a, b, rfl⟩ := List.append_of_mem hs
  rw [List.append_assoc, List.cons_append] at h
  have hne : ∀ c, c = .comment ∨ c = .invalidString → s.tokenClass ≠ c := by
    rintro c hc rfl
    have hnil := post_eq_nil hline h hc
    simp at hnil
  exact ⟨hne _ (.inl rfl), hne _ (.inr rfl)⟩

theorem closes_of_complete (hnames : ∀ name ∈ lx.keywords, IsName name) {u rest : List Char} {c : TokenClass}
    (hline : '\n' ∉ u) (hcomplete : Token.Complete ⟨'"' :: u, c, start⟩)
    (h : lx.recognize before ('"' :: u ++ rest) = (c, ('"' :: u).length))
    : ∃ n, StringEnd.of u = .closed n := by
  -- Inside a string, the closing quote is found whatever follows.
  have hshape := shape_of_recognize h
  rw [List.cons_append, recognize_quote hnames] at h
  cases hend : StringEnd.of (u ++ rest) with
  | closed n =>
    rw [hend] at h
    rw [← (Prod.mk.inj h).1] at hshape
    obtain ⟨v, htext, -, hescapes⟩ := hshape
    rw [List.cons_append] at htext
    rw [(List.cons.inj htext).2] at hline ⊢
    exact StringEnd.exists_of_eq_closed hline hescapes
  | unclosed =>
    rw [hend] at h
    exact absurd (Prod.mk.inj h).1.symm hcomplete.2.1
  | broken =>
    rw [hend] at h
    have hlength := (Prod.mk.inj h).2
    have hnil : u = [] := by
      apply List.eq_nil_of_length_eq_zero
      rw [List.length_cons] at hlength
      omega
    exact absurd (by rw [hnil]) hcomplete.2.2

theorem recognize_of_append (hnames : ∀ name ∈ lx.keywords, IsName name) {d : Char}
    (hd : LexicalRule.isSeparator d = true) {text rest v : List Char} {c : TokenClass} (hne : text ≠ [])
    (hline : '\n' ∉ text) (hcomplete : Token.Complete ⟨text, c, start⟩)
    (h : lx.recognize before (text ++ (rest ++ d :: v)) = (c, text.length))
    : lx.recognize before (text ++ rest) = (c, text.length) := by
  obtain ⟨e, u, rfl⟩ := List.exists_cons_of_ne_nil hne
  rw [← h]
  rw [← List.append_assoc]
  apply recognize_of_length?
  intro r hr
  symm
  apply LexicalRule.length?_append hr hnames hd
  · rintro rfl
    have hclass := recognize_hash hnames before (u ++ (rest ++ d :: v))
    rw [List.cons_append] at h
    rw [h] at hclass
    exact hcomplete.1 hclass
  · rintro rfl
    have hline' : '\n' ∉ u := by
      simp_all
    obtain ⟨n, hclosed⟩ := closes_of_complete hnames hline' hcomplete h
    exact ⟨n, StringEnd.of_append hclosed rest⟩

theorem Cuts.of_append (hnames : ∀ name ∈ lx.keywords, IsName name) {d : Char}
    (hd : LexicalRule.isSeparator d = true) {v : List Char} {more : List Token}
    (hline : '\n' ∉ pre.flatMap (·.text)) (hcomplete : ∀ s ∈ pre, s.Complete)
    (h : lx.Cuts before start (pre.flatMap (·.text) ++ d :: v) (pre ++ more))
    : lx.Cuts before start (pre.flatMap (·.text)) pre := by
  generalize hcs : pre.flatMap (·.text) ++ d :: v = cs at h
  induction pre generalizing before start cs with
  | nil => exact nil
  | cons s pre ih =>
    cases h with
    | cons hne hrec hcuts =>
      next text rest c =>
      rw [List.flatMap_cons] at hline hcs ⊢
      rw [List.append_assoc] at hcs
      have hrest := List.append_cancel_left hcs
      rw [List.mem_append, not_or] at hline
      rw [← hrest] at hrec
      apply cons hne
      · exact recognize_of_append hnames hd hne hline.1 (hcomplete _ List.mem_cons_self) hrec
      · exact ih hline.2 (fun s hs => hcomplete s (List.mem_cons_of_mem _ hs)) rest hrest hcuts

theorem recognize_comment_line (hnames : ∀ name ∈ lx.keywords, IsName name) (before : Option Char) {w : List Char}
    (hline : '\n' ∉ w)
    : lx.recognize before ('#' :: w) = (.comment, ('#' :: w).length) := by
  have hall : w.takeWhile (· ≠ '\n') = w := by
    rw [List.takeWhile_eq_self_iff]
    intro c hc
    rw [decide_eq_true_iff]
    rintro rfl
    exact hline hc
  rw [recognize_comment hnames, hall]
  rfl

theorem cuts_comment (hnames : ∀ name ∈ lx.keywords, IsName name) (before : Option Char) (start : Nat)
    {w : List Char} (hline : '\n' ∉ w)
    : lx.Cuts before start ('#' :: w) [⟨'#' :: w, .comment, start⟩] := by
  have hcuts : lx.Cuts before start (('#' :: w) ++ []) [⟨'#' :: w, .comment, start⟩] := by
    apply Cuts.cons
    · simp
    · rw [List.append_nil]
      exact recognize_comment_line hnames before hline
    · exact Cuts.nil
  rw [List.append_nil] at hcuts
  exact hcuts

theorem tokenize_comment_iff (hnames : ∀ name ∈ lx.keywords, IsName name) (hline : '\n' ∉ line)
    (h : lx.Cuts none 0 line (pre ++ t :: post)) (hclass : t.tokenClass = .comment)
    : (∀ s ∈ pre, s.text ≠ ['"'])
        ↔ ∀ w, '\n' ∉ w → lx.tokenize (pre.flatMap (·.text) ++ '#' :: w) = pre ++ [⟨'#' :: w, .comment, t.start⟩] := by
  have hstart := h.split.1
  rw [Nat.zero_add] at hstart
  constructor
  · intro hquotes w hw
    have hcomplete : ∀ s ∈ pre, s.Complete := by
      intro s hs
      obtain ⟨hcomment, hinvalid⟩ := complete_before hline h hs
      exact ⟨hcomment, hinvalid, hquotes s hs⟩
    have hshape := h.shape
    rw [hclass] at hshape
    obtain ⟨v, hv⟩ := List.head?_eq_some_iff.1 hshape.1
    obtain rfl := line_eq h
    rw [List.flatMap_cons, hv] at h hline
    have hbefore := h.of_append hnames LexicalRule.isSeparator_hash (fun hmem => hline (by simp [hmem])) hcomplete
    symm
    apply Cuts.eq_tokenizeFrom
    apply hbefore.append hnames LexicalRule.isSeparator_hash hcomplete
    rw [Nat.zero_add, ← hstart]
    exact cuts_comment hnames _ _ hw
  · intro hall s hs hquote
    obtain ⟨a, b, rfl⟩ := List.append_of_mem hs
    -- a comment that begins with a quote would close the string
    have hcuts := cuts_tokenize (hall ['"'] (by decide))
    rw [List.append_assoc, List.cons_append] at hcuts
    have hrest : (s :: (b ++ [⟨['#', '"'], .comment, t.start⟩])).flatMap (·.text)
        = '"' :: (b.flatMap (·.text) ++ ['#'] ++ ['"']) := by
      simp [hquote]
    have hfree : '\n' ∉ b.flatMap (·.text) ++ ['#'] ++ '"' :: [] := by
      rw [line_eq h] at hline
      simp_all
    obtain ⟨n, hclosed⟩ := StringEnd.exists_of_eq_closed hfree (by simp [escapesNext_concat])
    obtain ⟨u, v, -, -, -, -, htext, -⟩ := string_of_closed hnames hcuts hrest hclosed
    rw [hquote] at htext
    simp at htext

theorem tokenize_comment_line (hnames : ∀ name ∈ lx.keywords, IsName name) {w : List Char} (hline : '\n' ∉ w)
    : lx.tokenize ('#' :: w) = [⟨'#' :: w, .comment, 0⟩] := by
  symm
  apply Cuts.eq_tokenizeFrom
  exact cuts_comment hnames none 0 hline

/-- Each hash of a line stands in a comment or in a string. Only the last token can be a comment or a string that is not
closed; it runs to the end of the line, and a comment begins with a hash, as its line may do. -/
theorem hash_of_line (line : List Char) (hline : '\n' ∉ line)
    : (∀ a b, line = a ++ '#' :: b → ∃ pre t post u v, builtin.tokenize line = pre ++ t :: post
          ∧ a = pre.flatMap (·.text) ++ u ∧ t.text = u ++ '#' :: v
          ∧ (t.tokenClass = .comment ∨ t.tokenClass = .string ∨ t.tokenClass = .invalidString))
      ∧ (∀ pre t post, builtin.tokenize line = pre ++ t :: post →
          t.tokenClass = .comment ∨ t.tokenClass = .invalidString →
          post = [] ∧ line = pre.flatMap (·.text) ++ t.text
            ∧ (∀ s ∈ pre, s.tokenClass ≠ .comment ∧ s.tokenClass ≠ .invalidString)
            ∧ (t.tokenClass = .comment → t.text.head? = some '#'))
      ∧ (∀ w, line = '#' :: w → builtin.tokenize line = [⟨line, .comment, 0⟩])
      ∧ ∀ pre t post, builtin.tokenize line = pre ++ t :: post → t.tokenClass = .comment →
          ((∀ s ∈ pre, s.text ≠ ['"'])
            ↔ ∀ w, '\n' ∉ w → builtin.tokenize (pre.flatMap (·.text) ++ '#' :: w)
                = pre ++ [⟨'#' :: w, .comment, t.start⟩]) := by
  refine ⟨?_, ?_, ?_, ?_⟩
  · intro a b heq
    have hcuts : builtin.Cuts none 0 line (builtin.tokenize line) := cuts_tokenize rfl
    obtain ⟨pre, t, post, u, v, htokens, ha, htext⟩ := hcuts.exists_at heq
    have hhash : '#' ∈ t.text := by
      rw [htext]
      simp
    exact ⟨pre, t, post, u, v, htokens, ha, htext, tokenClass_of_hash isName_builtin (cuts_tokenize htokens) hhash⟩
  · intro pre t post htokens hclass
    have hcuts := cuts_tokenize htokens
    have hnil := post_eq_nil hline hcuts hclass
    have hsplit := line_eq hcuts
    rw [hnil, List.flatMap_singleton] at hsplit
    refine ⟨hnil, hsplit, fun s hs => complete_before hline hcuts hs, ?_⟩
    intro hcomment
    have hshape := hcuts.shape
    rw [hcomment, hnil] at hshape
    have hfirst := hshape.1
    rw [List.flatMap_nil, List.append_nil] at hfirst
    exact hfirst
  · rintro w rfl
    apply tokenize_comment_line isName_builtin
    simp_all
  · intro pre t post htokens hclass
    exact tokenize_comment_iff isName_builtin hline (cuts_tokenize htokens) hclass

theorem hash_of_line_tail
    : '\n' ∉ "\"a#b\" # \"c".toList
      ∧ builtin.tokenize "\"a#b\" # \"c".toList
        = [⟨"\"a#b\"".toList, .string, 0⟩, ⟨[' '], .identifier, 5⟩] ++ ⟨"# \"c".toList, .comment, 6⟩ :: []
      ∧ ∀ w, '\n' ∉ w → builtin.tokenize ("\"a#b\" ".toList ++ '#' :: w)
        = [⟨"\"a#b\"".toList, .string, 0⟩, ⟨[' '], .identifier, 5⟩] ++ [⟨'#' :: w, .comment, 6⟩] := by
  have hline : '\n' ∉ "\"a#b\" # \"c".toList := by
    decide
  have hstring : builtin.recognize none ("\"a#b\"".toList ++ ([' '] ++ "# \"c".toList)) = (.string, 5) :=
    recognize_quote isName_builtin none _
  have hspace : builtin.recognize (some '"') ([' '] ++ "# \"c".toList) = (.identifier, 1) :=
    recognize_single isName_builtin _ (by decide) (by decide) (by decide) _
  have hcomment : builtin.Cuts (some ' ') 6 "# \"c".toList [⟨"# \"c".toList, .comment, 6⟩] :=
    cuts_comment isName_builtin _ _ (by decide)
  have htokens : builtin.tokenize "\"a#b\" # \"c".toList
      = [⟨"\"a#b\"".toList, .string, 0⟩, ⟨[' '], .identifier, 5⟩] ++ ⟨"# \"c".toList, .comment, 6⟩ :: [] := by
    apply (tokenizeFrom_append (by simp) hstring).trans
    apply congrArg (List.cons _)
    apply (tokenizeFrom_append (by simp) hspace).trans
    apply congrArg (List.cons _)
    exact hcomment.eq_tokenizeFrom.symm
  refine ⟨hline, htokens, ((hash_of_line _ hline).2.2.2 _ _ _ htokens rfl).1 ?_⟩
  decide

end Lexer

end Workbench
