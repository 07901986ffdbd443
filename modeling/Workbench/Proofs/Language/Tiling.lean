import Workbench.Language.Lexer

/-!
The tokens of a line tile it. Each rule takes some characters of what is left, and no more than
there are; where none does, one character is taken. So the tokens follow each other without a gap
from the first byte of the line to the last, and every byte of the line has the class of the one
token that covers it.
-/

namespace Workbench

open Text

theorem StringEnd.add_eq_closed {e : StringEnd} {n k : Nat} (h : e.add n = .closed k)
    : ∃ m, e = .closed m ∧ k = m + n := by
  cases e with
  | closed m =>
    cases h
    exact ⟨m, rfl, rfl⟩
  | unclosed => contradiction
  | broken => contradiction

theorem StringEnd.closed_lt {cs : List Char} {n : Nat} (h : StringEnd.of cs = .closed n)
    : n < cs.length := by
  fun_induction StringEnd.of cs generalizing n with
  | case1 => contradiction
  | case2 =>
    cases h
    simp
  | case3 => contradiction
  | case4 => contradiction
  | case5 c cs hc ih =>
    obtain ⟨m, hm, rfl⟩ := StringEnd.add_eq_closed h
    specialize ih hm
    simp only [List.length_cons]
    omega
  | case6 c cs _ _ _ ih =>
    obtain ⟨m, hm, rfl⟩ := StringEnd.add_eq_closed h
    specialize ih hm
    simp only [List.length_cons]
    omega

namespace LexicalRule

def Fits (r : LexicalRule) : Prop :=
  ∀ cs n, r.length? cs = some n → n ≤ cs.length

theorem length_takeWhile_le (p : Char → Bool) (cs : List Char)
    : (cs.takeWhile p).length ≤ cs.length := by
  apply List.IsPrefix.length_le
  apply List.takeWhile_prefix

theorem fractionLength_le (cs : List Char) : fractionLength cs ≤ cs.length := by
  unfold fractionLength
  split
  · next cs =>
    split
    · have := length_takeWhile_le Char.isDigit cs
      simp only [List.length_cons]
      omega
    · omega
  · omega

theorem fits_keyword (names : List (List Char)) : (keyword names).Fits := by
  intro cs n h
  obtain ⟨name, hname, rfl⟩ := Option.map_eq_some_iff.1 h
  have hfound := List.find?_some hname
  rw [Bool.and_eq_true] at hfound
  apply List.IsPrefix.length_le
  apply List.isPrefixOf_iff_prefix.1
  exact hfound.1

theorem fits_comment : comment.Fits := by
  intro cs n h
  simp only [comment] at h
  split at h
  · cases h
    apply length_takeWhile_le
  · contradiction

theorem fits_invalidString : invalidString.Fits := by
  intro cs n h
  simp only [invalidString] at h
  split at h
  · split at h
    · cases h
      simp
    · contradiction
  · contradiction

theorem fits_string : string.Fits := by
  intro cs n h
  simp only [string] at h
  split at h
  · split at h
    · next hclosed =>
      cases h
      have := StringEnd.closed_lt hclosed
      simp only [List.length_cons]
      omega
    · contradiction
  · contradiction

theorem fits_number : number.Fits := by
  intro cs n h
  simp only [number] at h
  have hwhole := length_takeWhile_le Char.isDigit cs
  have hfraction := fractionLength_le (cs.drop (cs.takeWhile Char.isDigit).length)
  rw [List.length_drop] at hfraction
  split at h
  · contradiction
  · split at h
    · cases h
      omega
    · split at h
      · cases h
        omega
      · contradiction

theorem fits_identifier : identifier.Fits := by
  intro cs n h
  simp only [identifier] at h
  split at h
  · cases h
    apply length_takeWhile_le
  · contradiction

theorem match?_bounds {r : LexicalRule} {before : Option Char} {cs : List Char} {n : Nat}
    (hr : r.Fits) (h : r.match? before cs = some n)
    : 0 < n ∧ n ≤ cs.length := by
  unfold match? at h
  split at h
  · contradiction
  · rw [Option.filter_eq_some_iff] at h
    constructor
    · simpa using h.2
    · apply hr
      exact h.1

end LexicalRule

namespace Lexer

variable {lx : Lexer}

theorem fits_of_mem_rules {r : LexicalRule} (h : r ∈ lx.rules) : r.Fits := by
  simp only [rules, List.mem_cons, List.not_mem_nil, or_false] at h
  rcases h with rfl | rfl | rfl | rfl | rfl | rfl
  · apply LexicalRule.fits_keyword
  · apply LexicalRule.fits_comment
  · apply LexicalRule.fits_invalidString
  · apply LexicalRule.fits_string
  · apply LexicalRule.fits_number
  · apply LexicalRule.fits_identifier

theorem recognize_bounds (before : Option Char) {cs : List Char} (h : cs ≠ [])
    : 0 < (lx.recognize before cs).2 ∧ (lx.recognize before cs).2 ≤ cs.length := by
  unfold recognize
  cases hfound : lx.rules.findSome? fun r => (r.match? before cs).map (r.tokenClass, ·) with
  | none =>
    have := List.length_pos_iff.2 h
    simp only [Option.getD_none]
    omega
  | some found =>
    obtain ⟨r, hr, hmatch⟩ := List.exists_of_findSome?_eq_some hfound
    obtain ⟨n, hn, rfl⟩ := Option.map_eq_some_iff.1 hmatch
    exact LexicalRule.match?_bounds (fits_of_mem_rules hr) hn

/-- The tokens cut a text into what the rules recognise, place after place. -/
inductive Cuts (lx : Lexer) : Option Char → Nat → List Char → List Token → Prop where
  | nil {before : Option Char} {start : Nat} : Cuts lx before start [] []
  | cons {before : Option Char} {start : Nat} {text rest : List Char} {c : TokenClass}
    {tokens : List Token} : text ≠ [] → lx.recognize before (text ++ rest) = (c, text.length) →
    Cuts lx text.getLast? (start + Utf8.size text) rest tokens →
    Cuts lx before start (text ++ rest) (⟨text, c, start⟩ :: tokens)

theorem cuts_tokenizeFrom (before : Option Char) (start : Nat) (cs : List Char)
    : lx.Cuts before start cs (lx.tokenizeFrom before start cs) := by
  fun_induction lx.tokenizeFrom before start cs with
  | case1 => apply Cuts.nil
  | case2 before start c cs found text ih =>
    have hbounds : 0 < found.2 ∧ found.2 ≤ (c :: cs).length := by
      apply recognize_bounds
      simp
    have hlength : text.length = found.2 := by
      simp only [List.length_cons] at hbounds
      simp only [text, List.length_cons, List.length_take]
      omega
    -- what is taken and what is left make up the text again
    have hsplit : c :: cs = text ++ cs.drop (found.2 - 1) := by
      simp [text]
    have hrecognized : lx.recognize before (text ++ cs.drop (found.2 - 1)) = (found.1, text.length) := by
      rw [← hsplit]
      rw [hlength]
    rw [hsplit]
    apply Cuts.cons
    · simp [text]
    · exact hrecognized
    · exact ih

namespace Cuts

variable {before : Option Char} {start : Nat} {cs : List Char} {tokens pre post : List Token} {t : Token}

theorem flatMap_text (h : lx.Cuts before start cs tokens) : tokens.flatMap (·.text) = cs := by
  induction h with
  | nil => rfl
  | cons hne hrec hcuts ih => simp [ih]

theorem text_ne_nil (h : lx.Cuts before start cs tokens) (ht : t ∈ tokens) : t.text ≠ [] := by
  induction h with
  | nil => contradiction
  | cons hne hrec hcuts ih =>
    cases List.mem_cons.1 ht with
    | inl heq =>
      rw [heq]
      exact hne
    | inr hmem => exact ih hmem

theorem split (h : lx.Cuts before start cs (pre ++ t :: post))
    : t.start = start + Utf8.size (pre.flatMap (·.text))
      ∧ lx.recognize ((pre.flatMap (·.text)).getLast?.or before) ((t :: post).flatMap (·.text))
        = (t.tokenClass, t.text.length) := by
  induction pre generalizing before start cs with
  | nil =>
    cases h with
    | cons hne hrec hcuts =>
      rw [← hcuts.flatMap_text] at hrec
      constructor
      · simp
      · simpa using hrec
  | cons p pre ih =>
    cases h with
    | cons hne hrec hcuts =>
      next text rest c =>
      obtain ⟨hstart, hfound⟩ := ih hcuts
      have hlast : ∃ d, text.getLast? = some d := ⟨_, List.getLast?_eq_some_getLast hne⟩
      obtain ⟨d, hd⟩ := hlast
      constructor
      · rw [hstart]
        simp only [List.flatMap_cons, Utf8.size_append]
        omega
      · rw [← hfound]
        simp [List.getLast?_append, hd]

theorem after (h : lx.Cuts before start cs (pre ++ t :: post))
    : lx.Cuts t.text.getLast? t.stop (post.flatMap (·.text)) post := by
  induction pre generalizing before start cs with
  | nil =>
    cases h with
    | cons hne hrec hcuts =>
      rw [hcuts.flatMap_text]
      exact hcuts
  | cons p pre ih =>
    cases h with
    | cons hne hrec hcuts => exact ih hcuts

theorem exists_append (h : lx.Cuts none 0 cs tokens) (ht : t ∈ tokens)
    : ∃ a b, cs = a ++ t.text ++ b ∧ t.start = Utf8.size a
        ∧ lx.recognize a.getLast? (t.text ++ b) = (t.tokenClass, t.text.length) := by
  obtain ⟨pre, post, rfl⟩ := List.append_of_mem ht
  refine ⟨pre.flatMap (·.text), post.flatMap (·.text), ?_, ?_, ?_⟩
  · rw [← h.flatMap_text]
    simp
  · simpa using h.split.1
  · simpa using h.split.2

theorem exists_cons (h : lx.Cuts before start cs tokens) (hne : cs ≠ [])
    : ∃ text c rest more, cs = text ++ rest ∧ tokens = ⟨text, c, start⟩ :: more
        ∧ lx.recognize before cs = (c, text.length) := by
  cases h with
  | nil => contradiction
  | cons htext hrec hcuts => exact ⟨_, _, _, _, rfl, rfl, hrec⟩

theorem bounds (h : lx.Cuts before start cs tokens) (ht : t ∈ tokens)
    : start ≤ t.start ∧ t.stop ≤ start + Utf8.size cs := by
  obtain ⟨pre, post, rfl⟩ := List.append_of_mem ht
  rw [← h.flatMap_text]
  simp only [h.split.1, Token.stop, List.flatMap_append, List.flatMap_cons, Utf8.size_append]
  omega

theorem start_next {u : Token} (h : lx.Cuts before start cs (pre ++ t :: u :: post))
    : u.start = t.stop := by
  have ht := h.split.1
  rw [List.append_cons] at h
  have hu := h.split.1
  simp only [List.flatMap_append, List.flatMap_cons, List.flatMap_nil, List.append_nil,
    Utf8.size_append] at hu
  unfold Token.stop
  omega

end Cuts
end Lexer

namespace HighlightedLine

theorem classAt?_ofTokens_cons (t : Token) (tokens : List Token) (b : Nat)
    : (ofTokens (t :: tokens)).classAt? b
      = if t.start ≤ b ∧ b < t.stop then some t.tokenClass else (ofTokens tokens).classAt? b := by
  unfold ofTokens classAt?
  rw [List.map_cons, List.find?_cons]
  split
  · next hcovers =>
    rw [if_pos (by simpa using hcovers)]
    rfl
  · next hcovers =>
    rw [if_neg (by simpa using hcovers)]

theorem classAt?_eq_none {tokens : List Token} {b : Nat} (h : ∀ t ∈ tokens, t.stop ≤ b)
    : (ofTokens tokens).classAt? b = none := by
  induction tokens with
  | nil => rfl
  | cons t tokens ih =>
    have ht := h t (by simp)
    rw [classAt?_ofTokens_cons]
    rw [if_neg (by omega)]
    apply ih
    intro u hu
    apply h
    simp [hu]

end HighlightedLine

namespace Lexer

variable {lx : Lexer}

theorem Cuts.classAt? {before : Option Char} {start b : Nat} {cs : List Char} {tokens : List Token}
    (h : lx.Cuts before start cs tokens) (hstart : start ≤ b) (hstop : b < start + Utf8.size cs)
    : ∃ t ∈ tokens, t.start ≤ b ∧ b < t.stop
        ∧ (∀ u ∈ tokens, u.start ≤ b → b < u.stop → u = t)
        ∧ (HighlightedLine.ofTokens tokens).classAt? b = some t.tokenClass := by
  induction h with
  | nil =>
    simp only [Utf8.size_nil] at hstop
    omega
  | cons hne hrec hcuts ih =>
    next start text rest c tokens =>
    have hend : Token.stop ⟨text, c, start⟩ = start + Utf8.size text := rfl
    rw [Utf8.size_append] at hstop
    simp only [HighlightedLine.classAt?_ofTokens_cons, List.mem_cons]
    by_cases hfirst : b < start + Utf8.size text
    · refine ⟨_, .inl rfl, hstart, hfirst, ?_, if_pos ⟨hstart, hfirst⟩⟩
      intro u hu hle hlt
      cases hu with
      | inl heq => exact heq
      | inr hmem =>
        -- later tokens begin where this one ends
        have := (hcuts.bounds hmem).1
        omega
    · obtain ⟨t, ht, hle, hlt, hunique, hclass⟩ := ih (by omega) (by omega)
      refine ⟨t, .inr ht, hle, hlt, ?_, ?_⟩
      · intro u hu hle' hlt'
        cases hu with
        | inl heq =>
          rw [heq] at hlt'
          exact absurd hlt' hfirst
        | inr hmem => exact hunique u hmem hle' hlt'
      · rw [if_neg (by omega)]
        exact hclass

end Lexer

/-- The tokens lie side by side in a line, from its first byte to its last, and make it up. -/
structure Token.Tile (tokens : List Token) (line : String) : Prop where
  text_ne_nil : ∀ t ∈ tokens, t.text ≠ []
  first : ∀ t, tokens.head? = some t → t.start = 0
  next : ∀ pre t u post, tokens = pre ++ t :: u :: post → u.start = t.stop
  last : ∀ t, tokens.getLast? = some t → t.stop = line.utf8ByteSize
  boundaries : ∀ t ∈ tokens,
    String.Pos.Raw.IsValid line ⟨t.start⟩ ∧ String.Pos.Raw.IsValid line ⟨t.stop⟩
  text : String.ofList (tokens.flatMap (·.text)) = line

namespace Lexer

theorem isValid_size {line : String} {a b : List Char} (h : line.toList = a ++ b)
    : String.Pos.Raw.IsValid line ⟨Utf8.size a⟩ := by
  rw [String.Pos.Raw.isValid_iff_exists_take_toList]
  refine ⟨a.length, ?_⟩
  rw [h]
  rw [List.take_left]
  rw [Utf8.utf8ByteSize_ofList]

theorem Cuts.tile {lx : Lexer} {line : String} {tokens : List Token}
    (h : lx.Cuts none 0 line.toList tokens)
    : Token.Tile tokens line where
  text_ne_nil := by
    intro t ht
    exact h.text_ne_nil ht
  first := by
    intro t ht
    obtain ⟨post, rfl⟩ := List.head?_eq_some_iff.1 ht
    rw [← List.nil_append (t :: post)] at h
    simpa using h.split.1
  next := by
    intro pre t u post heq
    rw [heq] at h
    exact h.start_next
  last := by
    intro t ht
    obtain ⟨pre, rfl⟩ := List.getLast?_eq_some_iff.1 ht
    rw [← String.ofList_toList (s := line)]
    rw [Utf8.utf8ByteSize_ofList]
    rw [← h.flatMap_text]
    simp [Token.stop, h.split.1]
  boundaries := by
    intro t ht
    obtain ⟨pre, post, rfl⟩ := List.append_of_mem ht
    have hstart := h.split.1
    have htext := h.flatMap_text
    rw [List.flatMap_append, List.flatMap_cons] at htext
    rw [Nat.zero_add] at hstart
    unfold Token.stop
    rw [hstart]
    constructor
    · exact isValid_size htext.symm
    · rw [← Utf8.size_append]
      rw [← List.append_assoc] at htext
      exact isValid_size htext.symm
  text := by
    rw [h.flatMap_text]
    rw [String.ofList_toList]

theorem tokenize_tiles (names : List String) (line : String)
    : Token.Tile ((withKeywords names).tokenize line.toList) line
      ∧ (∀ pre t post, (withKeywords names).tokenize line.toList = pre ++ t :: post →
          (withKeywords names).recognize (pre.flatMap (·.text)).getLast?
            ((t :: post).flatMap (·.text)) = (t.tokenClass, t.text.length))
      ∧ (∀ b < line.utf8ByteSize, ∃ t ∈ (withKeywords names).tokenize line.toList,
          t.start ≤ b ∧ b < t.stop
          ∧ (∀ u ∈ (withKeywords names).tokenize line.toList, u.start ≤ b → b < u.stop → u = t)
          ∧ (HighlightedLine.ofTokens ((withKeywords names).tokenize line.toList)).classAt? b
            = some t.tokenClass)
      ∧ ∀ b ≥ line.utf8ByteSize,
          (HighlightedLine.ofTokens ((withKeywords names).tokenize line.toList)).classAt? b = none := by
  have hcuts : (withKeywords names).Cuts none 0 line.toList
      ((withKeywords names).tokenize line.toList) := by
    apply cuts_tokenizeFrom
  have hsize : line.utf8ByteSize = Utf8.size line.toList := by
    rw [← Utf8.utf8ByteSize_ofList]
    rw [String.ofList_toList]
  refine ⟨hcuts.tile, ?_, ?_, ?_⟩
  · intro pre t post heq
    rw [heq] at hcuts
    simpa using hcuts.split.2
  · intro b hb
    apply hcuts.classAt?
    · omega
    · omega
  · intro b hb
    apply HighlightedLine.classAt?_eq_none
    intro t ht
    have := (hcuts.bounds ht).2
    omega

end Lexer
end Workbench
