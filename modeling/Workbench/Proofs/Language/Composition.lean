import Mathlib.Data.List.Basic
import Workbench.Proofs.Language.Shapes

/-!
How the tokens of a line depend on its parts. A character that is of no word, number or identifier keeps what stands
before it apart from what follows: the tokens before it are those of the part before, unless a comment or a string
without its closing quote goes on. What follows a character of no word is cut like a line of its own.
-/

namespace Workbench

open Text

namespace LexicalRule

def isSeparator (c : Char) : Bool :=
  !Unicode.isWordCharacter c && c != '-' && c != '.'

theorem isSeparator_iff {c : Char}
    : isSeparator c = true ↔ Unicode.isWordCharacter c = false ∧ c ≠ '-' ∧ c ≠ '.' := by
  simp [isSeparator, and_assoc]

theorem isNameChar_of_isSeparator {c : Char} (h : isSeparator c = true) : Lexer.isNameChar c = false := by
  rw [← Bool.not_eq_true]
  intro hname
  have hword := (isSeparator_iff.1 h).1
  rw [(Lexer.classes_of_isNameChar hname).1] at hword
  contradiction

theorem isDigit_of_isSeparator {c : Char} (h : isSeparator c = true) : c.isDigit = false := by
  have hname := isNameChar_of_isSeparator h
  unfold Lexer.isNameChar Char.isAlphanum at hname
  simp_all

theorem isIdentifierChar_of_isSeparator {c : Char} (h : isSeparator c = true) : isIdentifierChar c = false := by
  rw [← Bool.not_eq_true, isIdentifierChar_iff]
  rw [isNameChar_of_isSeparator h]
  simp [(isSeparator_iff.1 h).2.1]

theorem isSeparator_space : isSeparator ' ' = true := by
  rw [isSeparator_iff]
  exact ⟨(Lexer.classes_of_ascii (by decide)).1, by decide, by decide⟩

variable {d : Char} {v : List Char}

theorem wordBoundary_append (h : isSeparator d = true) (before after : List Char)
    : wordBoundary before (after ++ d :: v) = wordBoundary before after := by
  unfold wordBoundary
  cases after with
  | nil => simp [(isSeparator_iff.1 h).1]
  | cons c after => simp

theorem length?_keyword_append {names : List (List Char)} (hnames : ∀ name ∈ names, Lexer.IsName name)
    (h : isSeparator d = true) (cs : List Char)
    : (keyword names).length? (cs ++ d :: v) = (keyword names).length? cs := by
  rw [length?_keyword hnames, length?_keyword hnames]
  rw [takeWhile_append_cons (isSeparator_iff.1 h).1]

theorem fractionLength_append (h : isSeparator d = true) (cs : List Char)
    : fractionLength (cs ++ d :: v) = fractionLength cs := by
  have hdigit := isDigit_of_isSeparator h
  cases cs with
  | nil => simp [fractionLength, (isSeparator_iff.1 h).2.2]
  | cons c cs =>
    by_cases hc : c = '.'
    · subst hc
      rw [List.cons_append]
      simp only [fractionLength]
      rw [takeWhile_append_cons hdigit]
      cases cs with
      | nil => simp [hdigit]
      | cons e cs => rfl
    · simp [fractionLength, hc]

theorem length?_number_append (h : isSeparator d = true) (cs : List Char)
    : number.length? (cs ++ d :: v) = number.length? cs := by
  have hwhole := length_takeWhile_le Char.isDigit cs
  have hfraction := fractionLength_le (cs.drop (cs.takeWhile Char.isDigit).length)
  rw [List.length_drop] at hfraction
  simp only [number]
  rw [takeWhile_append_cons (isDigit_of_isSeparator h)]
  generalize (cs.takeWhile Char.isDigit).length = whole at *
  rw [List.drop_append_of_le_length hwhole]
  rw [fractionLength_append h]
  generalize fractionLength (cs.drop whole) = fraction at *
  rw [List.drop_append_of_le_length (by omega)]
  rw [List.take_append_of_le_length (by omega), List.take_append_of_le_length hwhole]
  rw [wordBoundary_append h, wordBoundary_append h]

theorem length?_identifier_append (h : isSeparator d = true) (c : Char) (cs : List Char)
    : identifier.length? (c :: cs ++ d :: v) = identifier.length? (c :: cs) := by
  simp only [identifier]
  rw [takeWhile_append_cons (isIdentifierChar_of_isSeparator h)]
  rfl

theorem length?_append {lx : Lexer} {r : LexicalRule} (hr : r ∈ lx.rules)
    (hnames : ∀ name ∈ lx.keywords, Lexer.IsName name) (h : isSeparator d = true) {c : Char} {cs : List Char}
    (hhash : c ≠ '#') (hquote : c = '"' → ∃ n, StringEnd.of cs = .closed n)
    : r.length? (c :: cs ++ d :: v) = r.length? (c :: cs) := by
  -- No rule looks past a separator, unless a comment or a string that is not closed goes on there.
  simp only [Lexer.rules, List.mem_cons, List.not_mem_nil, or_false] at hr
  rcases hr with rfl | rfl | rfl | rfl | rfl | rfl
  · exact length?_keyword_append hnames h (c :: cs)
  · simp [comment, hhash]
  · by_cases hc : c = '"'
    · obtain ⟨n, hclosed⟩ := hquote hc
      simp [invalidString, hc, hclosed, StringEnd.of_append hclosed]
    · simp [invalidString, hc]
  · by_cases hc : c = '"'
    · obtain ⟨n, hclosed⟩ := hquote hc
      simp [string, hc, hclosed, StringEnd.of_append hclosed]
    · simp [string, hc]
  · exact length?_number_append h (c :: cs)
  · exact length?_identifier_append h c cs

end LexicalRule

/-- A token that does not go on if its line does: neither a comment, nor a string that is not closed, nor its quote. -/
def Token.Complete (t : Token) : Prop :=
  t.tokenClass ≠ .comment ∧ t.tokenClass ≠ .invalidString ∧ t.text ≠ ['"']

instance (t : Token) : Decidable t.Complete :=
  inferInstanceAs (Decidable (_ ∧ _ ∧ _))

def Token.shift (n : Nat) (t : Token) : Token :=
  { t with start := n + t.start }

namespace Lexer

variable {lx : Lexer} {before : Option Char} {start : Nat}

theorem recognize_of_length? {cs ds : List Char} (h : ∀ r ∈ lx.rules, r.length? cs = r.length? ds)
    (before : Option Char)
    : lx.recognize before cs = lx.recognize before ds := by
  have hmatch : ∀ r ∈ lx.rules,
      (r.match? before cs).map (r.tokenClass, ·) = (r.match? before ds).map (r.tokenClass, ·) := by
    intro r hr
    unfold LexicalRule.match?
    rw [h r hr]
  unfold recognize
  rw [← List.head?_filterMap, ← List.head?_filterMap]
  rw [List.filterMap_congr hmatch]

theorem recognize_of_before {before' : Option Char} (h : before.any isWordChar = before'.any isWordChar)
    (cs : List Char)
    : lx.recognize before cs = lx.recognize before' cs := by
  unfold recognize LexicalRule.match?
  rw [h]

theorem recognize_append (hnames : ∀ name ∈ lx.keywords, IsName name) {d : Char}
    (hd : LexicalRule.isSeparator d = true) {text rest : List Char} {c : TokenClass} (hne : text ≠ [])
    (hcomplete : Token.Complete ⟨text, c, start⟩)
    (h : lx.recognize before (text ++ rest) = (c, text.length)) (v : List Char)
    : lx.recognize before (text ++ (rest ++ d :: v)) = (c, text.length) := by
  obtain ⟨hcomment, hinvalid, hlone⟩ := hcomplete
  obtain ⟨e, u, rfl⟩ := List.exists_cons_of_ne_nil hne
  rw [← h]
  rw [← List.append_assoc]
  apply recognize_of_length?
  intro r hr
  apply LexicalRule.length?_append hr hnames hd
  · rintro rfl
    have hclass := recognize_hash hnames before (u ++ rest)
    rw [List.cons_append] at h
    rw [h] at hclass
    exact hcomment hclass
  · rintro rfl
    rw [List.cons_append] at h
    rw [recognize_quote hnames] at h
    cases hend : StringEnd.of (u ++ rest) with
    | closed n => exact ⟨n, rfl⟩
    | unclosed =>
      rw [hend] at h
      exact absurd (Prod.mk.inj h).1.symm hinvalid
    | broken =>
      rw [hend] at h
      have hlength := (Prod.mk.inj h).2
      rw [List.length_cons] at hlength
      have hnil : u = [] := by
        apply List.eq_nil_of_length_eq_zero
        omega
      rw [hnil] at hlone
      contradiction

namespace Cuts

variable {cs : List Char} {tokens : List Token}

theorem eq_tokenizeFrom (h : lx.Cuts before start cs tokens) : tokens = lx.tokenizeFrom before start cs := by
  induction h with
  | nil => simp [tokenizeFrom]
  | @cons before start text rest c tokens hne hrec hcuts ih =>
    obtain ⟨e, u, rfl⟩ := List.exists_cons_of_ne_nil hne
    rw [List.cons_append] at hrec ⊢
    rw [tokenizeFrom]
    rw [hrec]
    simp [ih]

theorem of_before {before' : Option Char} (h : lx.Cuts before start cs tokens)
    (hbefore : before.any isWordChar = before'.any isWordChar)
    : lx.Cuts before' start cs tokens := by
  cases h with
  | nil => exact nil
  | cons hne hrec hcuts =>
    rw [recognize_of_before hbefore] at hrec
    exact cons hne hrec hcuts

theorem shift (h : lx.Cuts before start cs tokens) (n : Nat)
    : lx.Cuts before (n + start) cs (tokens.map (.shift n)) := by
  induction h with
  | nil => exact nil
  | cons hne hrec hcuts ih =>
    rw [← Nat.add_assoc] at ih
    exact cons hne hrec ih

theorem append (hnames : ∀ name ∈ lx.keywords, IsName name) {d : Char} {v : List Char} {more : List Token}
    (h : lx.Cuts before start cs tokens) (hd : LexicalRule.isSeparator d = true)
    (hcomplete : ∀ t ∈ tokens, t.Complete)
    (hmore : lx.Cuts (cs.getLast?.or before) (start + Utf8.size cs) (d :: v) more)
    : lx.Cuts before start (cs ++ d :: v) (tokens ++ more) := by
  induction h with
  | nil => simpa using hmore
  | @cons before start text rest c tokens hne hrec hcuts ih =>
    rw [List.append_assoc]
    rw [List.cons_append]
    apply cons hne
    · exact recognize_append hnames hd hne (hcomplete _ List.mem_cons_self) hrec v
    · apply ih
      · intro t ht
        apply hcomplete
        simp [ht]
      · obtain ⟨e, he⟩ : ∃ e, text.getLast? = some e := ⟨_, List.getLast?_eq_some_getLast hne⟩
        rw [List.getLast?_append, he, Utf8.size_append, ← Nat.add_assoc] at hmore
        rw [he]
        simpa using hmore

end Cuts

theorem tokenizeFrom_append {text rest : List Char} {c : TokenClass} (hne : text ≠ [])
    (h : lx.recognize before (text ++ rest) = (c, text.length))
    : lx.tokenizeFrom before start (text ++ rest)
        = ⟨text, c, start⟩ :: lx.tokenizeFrom text.getLast? (start + Utf8.size text) rest := by
  symm
  apply Cuts.eq_tokenizeFrom
  apply Cuts.cons hne h
  apply cuts_tokenizeFrom

theorem cuts_tokenize {line : List Char} {tokens : List Token} (h : lx.tokenize line = tokens)
    : lx.Cuts none 0 line tokens := by
  rw [← h]
  apply cuts_tokenizeFrom

theorem cuts_shift (hbefore : before.any isWordChar = false) (n : Nat) (cs : List Char)
    : lx.Cuts before n cs ((lx.tokenize cs).map (.shift n)) := by
  have hcuts : lx.Cuts none 0 cs (lx.tokenize cs) := cuts_tokenize rfl
  exact (hcuts.shift n).of_before hbefore.symm

theorem cuts_space (hnames : ∀ name ∈ lx.keywords, IsName name) (before : Option Char) (start : Nat) (v : List Char)
    : lx.Cuts before start (' ' :: v)
        (⟨[' '], .identifier, start⟩ :: (lx.tokenize v).map (.shift (start + 1))) := by
  rw [← List.singleton_append]
  apply Cuts.cons
  · simp
  · exact recognize_single hnames before (by decide) (by decide) (by decide) v
  · apply cuts_shift
    exact (classes_of_ascii (c := ' ') (by decide)).2

theorem tokenize_append_space (hnames : ∀ name ∈ lx.keywords, IsName name) {u : List Char}
    (h : ∀ t ∈ lx.tokenize u, t.Complete) (v : List Char)
    : lx.tokenize (u ++ ' ' :: v)
        = lx.tokenize u ++ ⟨[' '], .identifier, Utf8.size u⟩ :: (lx.tokenize v).map (.shift (Utf8.size u + 1)) := by
  have hspace := cuts_space hnames u.getLast? (Utf8.size u) v
  have hcuts : lx.Cuts none 0 u (lx.tokenize u) := cuts_tokenize rfl
  symm
  apply Cuts.eq_tokenizeFrom
  apply hcuts.append hnames LexicalRule.isSeparator_space h
  simpa using hspace

theorem tokenClass_of_quote_space (hnames : ∀ name ∈ lx.keywords, IsName name) {cs : List Char} {c : TokenClass}
    (hline : '\n' ∉ cs ++ [' ']) (h : lx.recognize before (['"'] ++ (cs ++ [' '])) = (c, 1))
    : c = .invalidString := by
  rw [List.singleton_append, recognize_quote hnames] at h
  cases hend : StringEnd.of (cs ++ [' ']) with
  | closed n =>
    rw [hend] at h
    have hlength := (Prod.mk.inj h).2
    simp at hlength
  | unclosed =>
    rw [hend] at h
    exact (Prod.mk.inj h).1.symm
  | broken => exact absurd hend (StringEnd.of_concat_ne_broken hline (by decide))

theorem complete_of_append_space (hnames : ∀ name ∈ lx.keywords, IsName name) {u : List Char} (hline : '\n' ∉ u)
    (h : lx.tokenize (u ++ [' ']) = lx.tokenize u ++ [⟨[' '], .identifier, Utf8.size u⟩]) {t : Token}
    (ht : t ∈ lx.tokenize u)
    : t.Complete := by
  obtain ⟨pre, post, heq⟩ := List.append_of_mem ht
  have hcuts := cuts_tokenize heq
  have hlong := cuts_tokenize h
  rw [heq, List.append_assoc, List.cons_append] at hlong
  have htext := hcuts.flatMap_text
  rw [List.flatMap_append, List.flatMap_cons] at htext
  have hshape := hlong.shape
  rw [List.flatMap_append, List.flatMap_singleton] at hshape
  have hinvalid : t.tokenClass ≠ .invalidString := by
    intro hclass
    rw [hclass] at hshape
    exact absurd hshape.1 (by simp)
  refine ⟨?_, hinvalid, ?_⟩
  · intro hclass
    rw [hclass] at hshape
    cases hpost : post.flatMap (·.text) with
    | nil =>
      rw [hpost] at hshape
      exact absurd (hshape.2.2 ' ' rfl) (by decide)
    | cons c rest =>
      rw [hpost] at hshape htext
      rw [hshape.2.2 c rfl] at htext
      apply hline
      rw [← htext]
      simp
  · intro hquote
    have hrec := hlong.split.2
    rw [List.flatMap_cons, hquote, List.flatMap_append, List.flatMap_singleton] at hrec
    apply hinvalid
    apply tokenClass_of_quote_space hnames _ hrec
    rw [hquote] at htext
    rw [← htext] at hline
    simp_all

/-- The tokens of a line are those of two parts with a space between them, whatever the second one is, if and only if no
token of the first part goes on. -/
theorem tokenize_append_space_iff (u : List Char) (hline : '\n' ∉ u)
    : (∀ v, builtin.tokenize (u ++ ' ' :: v)
          = builtin.tokenize u ++ ⟨[' '], .identifier, Utf8.size u⟩
            :: (builtin.tokenize v).map (.shift (Utf8.size u + 1)))
        ↔ ∀ t ∈ builtin.tokenize u, t.Complete := by
  constructor
  · intro h t ht
    apply complete_of_append_space isName_builtin hline
    · simpa [tokenize, tokenizeFrom] using h []
    · exact ht
  · intro h v
    exact tokenize_append_space isName_builtin h v

theorem tokenize_append_space_escape
    : '\n' ∉ "print_x \"a\\\" # b\"let 5".toList
      ∧ (∀ t ∈ builtin.tokenize "print_x \"a\\\" # b\"let 5".toList, t.Complete)
      ∧ builtin.tokenize ("print_x \"a\\\" # b\"let 5".toList ++ ' ' :: "let #".toList)
        = builtin.tokenize "print_x \"a\\\" # b\"let 5".toList
          ++ ⟨[' '], .identifier, Utf8.size "print_x \"a\\\" # b\"let 5".toList⟩
          :: (builtin.tokenize "let #".toList).map (.shift (Utf8.size "print_x \"a\\\" # b\"let 5".toList + 1)) := by
  have hline : '\n' ∉ "print_x \"a\\\" # b\"let 5".toList := by
    decide
  have hcomplete : ∀ t ∈ builtin.tokenize "print_x \"a\\\" # b\"let 5".toList, t.Complete := by
    decide +kernel
  exact ⟨hline, hcomplete, (tokenize_append_space_iff _ hline).2 hcomplete _⟩

end Lexer

end Workbench
