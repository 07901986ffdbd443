import Workbench.Proofs.Language.Keywords
import Workbench.Proofs.Language.Registry

/-!
What hover cards say about keywords. Tokens end where a run of word characters of regular expressions ends, words where
one of letters, numbers and underscores ends. So the card of a keyword is that of its token, unless a number that is no
decimal digit follows.
-/

namespace Workbench

open Text

namespace Language.Builtin

theorem exists_register (r : Registry) : ∃ r', register r = .ok r' ∧ r'.find? id = some language := by
  have hnone : (r.languages.filter (·.id ≠ id)).find? (·.id = id) = none := by
    simp
  refine ⟨_, register_eq r, ?_⟩
  unfold Registry.find?
  rw [List.find?_append]
  rw [hnone]
  rfl

end Language.Builtin

theorem Keyword.exists_find? {name : String} (h : name ∈ names) : ∃ k, find? name = some k ∧ k.name = name := by
  obtain ⟨k, hk, rfl⟩ := List.mem_map.1 h
  cases hfound : find? k.name with
  | none =>
    have hnone := List.find?_eq_none.1 hfound k hk
    simp at hnone
  | some found => exact ⟨found, rfl, by simpa using List.find?_some hfound⟩

theorem Keyword.find?_eq_none {name : String} (h : name ∉ names) : find? name = none := by
  apply List.find?_eq_none.2
  intro k hk hname
  apply h
  rw [← of_decide_eq_true hname]
  exact List.mem_map_of_mem hk

theorem isNumeric_of_classes {c : Char} (hword : isWordChar c = true)
    (hnot : Unicode.isWordCharacter c = false)
    : Unicode.isNumeric c = true ∧ Unicode.isAlphabetic c = false := by
  have hline : Unicode.isWordCharacter '_' = true := by
    decide +kernel
  have hne : c ≠ '_' := by
    rintro rfl
    rw [hline] at hnot
    contradiction
  have halpha : Unicode.isAlphabetic c = false := by
    unfold Unicode.isWordCharacter at hnot
    exact (Bool.or_eq_false_iff.1 hnot).1
  simpa [isWordChar, Unicode.isAlphanumeric, halpha, hne] using hword

theorem wordAt?_of_isName {a text b : List Char} {column : Nat} (htext : Lexer.IsName text)
    (ha : ∀ c ∈ a.getLast?, isWordChar c = false) (hstart : a.length ≤ column)
    (hstop : column ≤ a.length + text.length)
    : wordAt? (a ++ text ++ b) column
        = some ⟨text ++ b.takeWhile isWordChar, a.length,
            a.length + (text ++ b.takeWhile isWordChar).length⟩ := by
  obtain ⟨rest, hb, hrun, hrest⟩ := takeWhile_eq_iff.1 (rfl : b.takeWhile isWordChar = _)
  have hline : a ++ text ++ b = a ++ (text ++ b.takeWhile isWordChar) ++ rest := by
    rw [List.append_assoc, List.append_assoc, List.append_assoc]
    rw [← hb]
  rw [hline]
  apply wordAt?_of_run
  · simp [htext.1]
  · intro c hc
    rcases List.mem_append.1 hc with hmem | hmem
    · exact (Lexer.classes_of_isNameChar (htext.2 c hmem)).2
    · exact hrun c hmem
  · exact ha
  · exact hrest
  · exact hstart
  · rw [List.length_append]
    omega

namespace Language.Builtin

theorem hover_of_line {m : Model} {n : Nat} {line : List Char} (h : m.line? n = some line) (column : Nat)
    : hover m ⟨n, column⟩
        = (wordAt? line column).bind fun w =>
            (Keyword.find? (String.ofList w.text)).map fun k => ⟨k.hover, w⟩ := by
  simp [hover, Model.wordAt?, h]

theorem hover_of_keyword {m : Model} {n : Nat} {a text b : List Char} {k : Keyword} {column : Nat}
    (hline : m.line? n = some (a ++ text ++ b)) (hk : Keyword.find? (String.ofList text) = some k)
    (htext : Lexer.IsName text) (ha : ∀ c ∈ a.getLast?, isWordChar c = false)
    (hb : ∀ c ∈ b.head?, Unicode.isWordCharacter c = false) (hstart : a.length ≤ column)
    (hstop : column ≤ a.length + text.length)
    : hover m ⟨n, column⟩
        = if b.head?.any isWordChar then none else some ⟨k.hover, ⟨text, a.length, a.length + text.length⟩⟩ := by
  rw [hover_of_line hline]
  rw [wordAt?_of_isName htext ha hstart hstop]
  rw [Option.bind_some]
  cases b with
  | nil => simp [hk]
  | cons c b =>
    cases hc : isWordChar c with
    | false => simp [hc, hk]
    | true =>
      -- the word goes on behind the token, with a character that is in no keyword
      have hlong : String.ofList (text ++ (c :: b).takeWhile isWordChar) ∉ Keyword.names := by
        intro hmem
        have hname := Keyword.isName_of_mem_names _ hmem
        rw [String.toList_ofList] at hname
        have hnameChar := hname.2 c (by simp [hc])
        have hnot := hb c rfl
        rw [(Lexer.classes_of_isNameChar hnameChar).1] at hnot
        contradiction
      rw [Keyword.find?_eq_none hlong]
      simp [hc]

theorem hover?_of_keyword (r : Registry)
    : ∃ r', register r = .ok r' ∧ ∀ (m : Model) (n : Nat) (line : List Char), m.line? n = some line →
        ∃ tokens, r'.tokenize? id line = some tokens ∧ ∀ t ∈ tokens, t.tokenClass = .keyword →
          ∃ a b k, line = a ++ t.text ++ b ∧ t.start = Utf8.size a
            ∧ Keyword.find? (String.ofList t.text) = some k
            ∧ (∀ column, a.length ≤ column → column ≤ a.length + t.text.length →
                r'.hover? id m ⟨n, column⟩
                  = if b.head?.any isWordChar then none
                    else some ⟨k.hover, ⟨t.text, a.length, a.length + t.text.length⟩⟩)
            ∧ ∀ c ∈ b.head?, isWordChar c = true →
                Unicode.isNumeric c = true ∧ Unicode.isAlphabetic c = false
                  ∧ Unicode.isWordCharacter c = false := by
  obtain ⟨r', hregister, hfind⟩ := exists_register r
  refine ⟨r', hregister, ?_⟩
  intro m n line hline
  refine ⟨Lexer.builtin.tokenize line, ?_, ?_⟩
  · unfold Registry.tokenize?
    rw [hfind]
    rfl
  · intro t ht hclass
    have hcuts : Lexer.builtin.Cuts none 0 line (Lexer.builtin.tokenize line) := by
      apply Lexer.cuts_tokenizeFrom
    have hnames := Lexer.isName_of_mem_keywords Keyword.isName_of_mem_names
    obtain ⟨a, b, rfl, hstart, hrec⟩ := hcuts.exists_append ht
    rw [hclass] at hrec
    obtain ⟨htext, ha, hb⟩ := (Lexer.recognize_eq_keyword_iff hnames _ _ _).1 hrec
    obtain ⟨k, hk, -⟩ := Keyword.exists_find? (Lexer.mem_keywords.1 htext)
    refine ⟨a, b, k, rfl, hstart, hk, ?_, ?_⟩
    · intro column hle hge
      have hhover : r'.hover? id m ⟨n, column⟩ = hover m ⟨n, column⟩ := by
        unfold Registry.hover?
        rw [hfind]
        rfl
      rw [hhover]
      exact hover_of_keyword hline hk (hnames _ htext) ha hb hle hge
    · intro c hc hword
      obtain ⟨hnumeric, halpha⟩ := isNumeric_of_classes hword (hb c hc)
      exact ⟨hnumeric, halpha, hb c hc⟩

example : (⟨[language]⟩ : Registry).hover? id (Model.ofText "say print".toList) ⟨0, 9⟩
    = some ⟨"**print** - Outputs text to the console.", "print".toList, 4, 9⟩ := by
  decide +kernel

theorem hover?_superscript
    : register {} = .ok ⟨[language]⟩
      ∧ (⟨[language]⟩ : Registry).tokenize? id "print²".toList
          = some [⟨"print".toList, .keyword, 0⟩, ⟨['²'], .identifier, 5⟩]
      ∧ ∀ column ≤ 5, (⟨[language]⟩ : Registry).hover? id (Model.ofText "print²".toList) ⟨0, column⟩ = none := by
  refine ⟨rfl, ?_, ?_⟩
  · decide +kernel
  · decide +kernel

end Language.Builtin

end Workbench
