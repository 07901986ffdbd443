import Workbench.Proofs.Editor.Caret
import Workbench.Proofs.Text.Words

/-!
The break before a line, taken out from the start of the line. A line feed alone goes as a whole, and the
two lines are one. Of a carriage return and a line feed only the line feed goes, and the carriage return
still ends the line.
-/

namespace Workbench

namespace Text

/-- Every line that ends, ends in a line feed, with or without a carriage return before it. -/
def FeedEnds (cs : List Char) : Prop :=
  ∀ l ∈ (lines cs).dropLast, l.getLast? = some '\n'

instance (cs : List Char) : Decidable (FeedEnds cs) :=
  List.decidableBAll _ (lines cs).dropLast

variable {cs u : List Char} {pre post : List (List Char)} {p q : List Char}

theorem lines_suffix (h : lines cs = pre ++ p :: post) : lines (p :: post).flatten = p :: post := by
  induction pre generalizing cs with
  | nil =>
    rw [List.nil_append] at h
    rw [← h, flatten_lines]
  | cons l pre ih =>
    obtain ⟨q, rest, hrest⟩ := List.exists_cons_of_ne_nil (l := pre ++ p :: post) (by simp)
    rw [List.cons_append, hrest] at h
    apply ih
    rw [hrest]
    exact (lines_tail h).1

theorem FeedEnds.getLast? (hcs : FeedEnds cs) (h : lines cs = pre ++ p :: post) (hpost : post ≠ [])
    : p.getLast? = some '\n' := by
  apply hcs
  rw [h, List.dropLast_append_of_ne_nil (by simp), List.dropLast_cons_of_ne_nil hpost]
  simp

theorem line_cases_of_feedEnds (hcs : FeedEnds cs) (h : lines cs = pre ++ p :: post)
    : (post = [] ∧ Unbroken p)
      ∨ (post ≠ [] ∧ ∃ u, Unbroken u ∧ (p = u ++ ['\n'] ∨ p = u ++ ['\r', '\n'])) := by
  cases line_cases h with
  | inl hlast => exact .inl hlast
  | inr hbreak =>
    obtain ⟨hpost, u, b, rfl, hu, hb⟩ := hbreak
    refine .inr ⟨hpost, u, hu, ?_⟩
    have hfeed := hcs.getLast? h hpost
    rcases hb with rfl | ⟨c, -, rfl⟩
    · exact .inr rfl
    · rw [List.getLast?_concat] at hfeed
      rw [Option.some.inj hfeed]
      exact .inl rfl

theorem FeedEnds.not_fuses (hcs : FeedEnds cs) (h : lines cs = pre ++ p :: post) (hu : Unbroken u)
    (after : List Char)
    : ¬ Fuses (pre.flatten ++ u) after := by
  rintro ⟨hreturn, -⟩
  rw [List.getLast?_append] at hreturn
  cases hlast : u.getLast? with
  | some c =>
    rw [hlast] at hreturn
    have hc := hu c (List.mem_of_getLast? hlast)
    rw [Option.some.inj hreturn] at hc
    contradiction
  | none =>
    rw [hlast] at hreturn
    cases List.eq_nil_or_concat pre with
    | inl hnil =>
      rw [hnil] at hreturn
      contradiction
    | inr hconcat =>
      obtain ⟨lead, l, hpre⟩ := hconcat
      rw [List.concat_eq_append] at hpre
      rw [hpre, List.append_assoc] at h
      have hfeed := hcs.getLast? h (by simp)
      rw [hpre, List.flatten_concat, List.getLast?_append, hfeed] at hreturn
      simp at hreturn

theorem lines_joined (hcs : FeedEnds cs) (h : lines cs = pre ++ (u ++ ['\n']) :: q :: post) (hu : Unbroken u)
    : lines (pre.flatten ++ u ++ (q :: post).flatten) = pre ++ (u ++ q) :: post := by
  have hafter : lines (q :: post).flatten = q :: post := by
    rw [List.append_cons] at h
    exact lines_suffix h
  have hbefore := lines_prefix h hu
  exact lines_append (hcs.not_fuses h hu _) hbefore hafter

theorem eq_feed_of_head? (h : lines cs = pre ++ q :: post) (hfeed : (q :: post).flatten.head? = some '\n')
    : q = ['\n'] := by
  rcases line_cases h with ⟨rfl, hq⟩ | ⟨-, u, b, rfl, hu, hb⟩
  · rw [List.flatten_singleton] at hfeed
    have := hq _ (List.mem_of_head? hfeed)
    contradiction
  · rw [List.flatten_cons, List.append_assoc, List.head?_append] at hfeed
    cases u with
    | cons c u =>
      have hc := hu c List.mem_cons_self
      rw [Option.some.inj hfeed] at hc
      contradiction
    | nil =>
      rcases hb with rfl | ⟨c, -, rfl⟩
      · simp at hfeed
      · have hc : c = '\n' := by simpa using hfeed
        rw [hc]
        rfl

theorem lines_returned (h : lines cs = pre ++ (u ++ ['\r', '\n']) :: q :: post) (hu : Unbroken u)
    : lines (pre.flatten ++ u ++ '\r' :: (q :: post).flatten)
        = if q = ['\n'] then pre ++ (u ++ ['\r', '\n']) :: post else pre ++ (u ++ ['\r']) :: q :: post := by
  have hbefore := lines_prefix h hu
  rw [List.append_cons] at h
  split
  · next hq =>
    rw [hq] at h ⊢
    have hpost : lines post.flatten = post := by
      rcases line_cases h with ⟨rfl, hfeed⟩ | ⟨hpost, -⟩
      · exact absurd (hfeed '\n' (by simp)) (by decide)
      · obtain ⟨l, rest, rfl⟩ := List.exists_cons_of_ne_nil hpost
        rw [List.append_cons] at h
        exact lines_suffix h
    rw [List.flatten_cons, List.singleton_append]
    rw [lines_append_crlf _ hbefore]
    rw [hpost]
  · next hq =>
    rw [lines_append_break hbefore (by decide)]
    · rw [lines_suffix h]
    · rintro ⟨-, hfeed⟩
      contradiction
    · rintro ⟨-, hfeed⟩
      exact hq (eq_feed_of_head? h hfeed)

end Text

namespace Document

open Text

theorem contentLength_pair (u : List Char) : contentLength (u ++ ['\r', '\n']) = u.length := by
  have hsplit : u ++ ['\r', '\n'] = u ++ ['\r'] ++ ['\n'] := by simp
  rw [hsplit]
  simp [contentLength]

/-- The lines `p` and `q` of one document are a single line of the other one, which has lost the break
between them and nothing else. -/
structure Joined (d d' : Document) (n : Nat) (p q : List Char) : Prop where
  text : d'.text = (d.lines.take n).flatten ++ content p ++ (d.lines.drop (n + 1)).flatten
  lineCount : d'.lineCount + 1 = d.lineCount
  content : d'.model.line? n = some (Text.content p ++ Text.content q)
  before : ∀ k < n, d'.line? k = d.line? k
  after : ∀ k > n, d'.line? k = d.line? (k + 1)

theorem joined_of_lines {d d' : Document} {pre post : List (List Char)} {u p q : List Char}
    (h : d.lines = pre ++ p :: q :: post) (htext : d'.text = pre.flatten ++ u ++ (q :: post).flatten)
    (h' : d'.lines = pre ++ (u ++ q) :: post) (hu : Unbroken u) (hp : Text.content p = u)
    : d.Joined d' pre.length p q where
  text := by
    rw [htext, hp, h]
    simp
  lineCount := by
    unfold Document.lineCount
    rw [h, h']
    simp only [List.length_append, List.length_cons]
    omega
  content := by
    rw [hp, ← content_append hu]
    simp [model, line?, h']
  before := by
    intro k hk
    unfold line?
    rw [h, h']
    rw [List.getElem?_append_left hk, List.getElem?_append_left hk]
  after := by
    intro k hk
    unfold line?
    rw [h, h']
    rw [List.getElem?_append_right (by omega), List.getElem?_append_right (by omega)]
    obtain ⟨j, hj⟩ := Nat.exists_eq_add_of_lt hk
    have hshift : k - pre.length = j + 1 := by omega
    have hshift' : k + 1 - pre.length = j + 2 := by omega
    rw [hshift, hshift']
    rfl

end Document

namespace Editor

open Text Document

variable {e : Editor} {pre post : List (List Char)} {u w q : List Char}

theorem deleteBackward?_after_feed (h : e.document.lines = pre ++ (w ++ ['\n']) :: q :: post)
    (hcaret : e.caret = ⟨pre.length + 1, 0⟩)
    : e.deleteBackward? = some { e with
        document := { e.document with text := pre.flatten ++ w ++ (q :: post).flatten, dirty := true }
        caret := ⟨pre.length, contentLength (w ++ ['\n'])⟩ } := by
  have hlength := lineLength?_of_lines h
  have hsplit : e.document.lines = (pre ++ [w ++ ['\n']]) ++ ([] ++ q) :: post := by
    rw [h]
    simp
  have hsplits := splits_of_lines hsplit unbroken_nil
  have hbefore : (pre ++ [w ++ ['\n']]).flatten ++ [] = (pre.flatten ++ w) ++ ['\n'] := by
    simp
  have hline : (pre ++ [w ++ ['\n']]).length = pre.length + 1 := by
    simp
  rw [hbefore, hline] at hsplits
  have hplace : e.document.Splits e.caret ((pre.flatten ++ w) ++ ['\n']) (q ++ post.flatten) := by
    rw [hcaret]
    exact hsplits
  have hfuses : ¬ Fuses ((pre.flatten ++ w) ++ ['\n']) (q ++ post.flatten) := by
    rintro ⟨hreturn, -⟩
    rw [List.getLast?_concat] at hreturn
    contradiction
  have hpred : e.caret.line - 1 = pre.length := by
    rw [hcaret]
    rfl
  rw [← hpred] at hlength
  rw [deleteBackward?_start hplace hfuses (by rw [hcaret]) (by rw [hcaret]; simp) hlength]
  rw [hpred]
  rfl

theorem joined_of_feed (hbreaks : FeedEnds e.document.text)
    (h : e.document.lines = pre ++ (u ++ ['\n']) :: q :: post) (hu : Unbroken u)
    (hcaret : e.caret = ⟨pre.length + 1, 0⟩)
    : ∃ e', e.deleteBackward? = some e' ∧ e'.caret = ⟨pre.length, u.length⟩
        ∧ e.document.Joined e'.document pre.length (u ++ ['\n']) q := by
  have hdelete := deleteBackward?_after_feed h hcaret
  rw [contentLength_feed hu] at hdelete
  refine ⟨_, hdelete, rfl, ?_⟩
  apply joined_of_lines h rfl
  · exact lines_joined hbreaks h hu
  · exact hu
  · exact content_append_feed hu

theorem returned_of_pair (h : e.document.lines = pre ++ (u ++ ['\r', '\n']) :: q :: post) (hu : Unbroken u)
    (hcaret : e.caret = ⟨pre.length + 1, 0⟩)
    : ∃ e', e.deleteBackward? = some e' ∧ e'.caret = ⟨pre.length, u.length⟩
        ∧ e'.document.text = pre.flatten ++ u ++ '\r' :: (q :: post).flatten
        ∧ e'.document.lines
            = if q = ['\n'] then pre ++ (u ++ ['\r', '\n']) :: post
              else pre ++ (u ++ ['\r']) :: q :: post := by
  have hpair : u ++ ['\r', '\n'] = u ++ ['\r'] ++ ['\n'] := by simp
  have hdelete := deleteBackward?_after_feed (hpair ▸ h) hcaret
  rw [← hpair, contentLength_pair] at hdelete
  have htext : pre.flatten ++ (u ++ ['\r']) ++ (q :: post).flatten
      = pre.flatten ++ u ++ '\r' :: (q :: post).flatten := by
    simp
  rw [htext] at hdelete
  exact ⟨_, hdelete, rfl, rfl, lines_returned h hu⟩

theorem joined_iff {n : Nat} (hbreaks : FeedEnds e.document.text) (hline : n + 1 < e.document.lineCount)
    (hcaret : e.caret = ⟨n + 1, 0⟩)
    : ∃ p q e', e.document.line? n = some p ∧ e.document.line? (n + 1) = some q
        ∧ e.deleteBackward? = some e' ∧ e'.caret = ⟨n, (content p).length⟩
        ∧ (e.document.Joined e'.document n p q ↔ p = content p ++ ['\n'])
        ∧ (p ≠ content p ++ ['\n'] →
            e'.document.lines
              = if q = ['\n'] then e.document.lines.eraseIdx (n + 1)
                else e.document.lines.set n (content p ++ ['\r'])) := by
  obtain ⟨q, hq⟩ : ∃ q, e.document.line? (n + 1) = some q := ⟨_, List.getElem?_eq_getElem hline⟩
  obtain ⟨pre, post, h, hlen⟩ := exists_lines_of_line? hq
  obtain ⟨lead, p, rfl⟩ : ∃ lead p, pre = lead ++ [p] := by
    have hne : pre ≠ [] := by
      rintro rfl
      contradiction
    exact ⟨_, _, (List.dropLast_concat_getLast hne).symm⟩
  rw [List.append_assoc] at h
  have hlead : lead.length = n := by simpa using hlen
  subst hlead
  refine ⟨p, q, ?_⟩
  have hp : e.document.line? lead.length = some p := by simp [line?, h]
  rcases line_cases_of_feedEnds hbreaks h with ⟨hpost, -⟩ | ⟨-, u, hu, rfl | rfl⟩
  · contradiction
  · obtain ⟨e', hdelete, hcaret', hjoined⟩ := joined_of_feed hbreaks h hu hcaret
    rw [content_append_feed hu]
    refine ⟨e', hp, hq, hdelete, hcaret', iff_of_true hjoined rfl, ?_⟩
    intro hfeed
    contradiction
  · obtain ⟨e', hdelete, hcaret', htext, hlines⟩ := returned_of_pair h hu hcaret
    rw [content_append_pair hu]
    refine ⟨e', hp, hq, hdelete, hcaret', iff_of_false ?_ (by simp), ?_⟩
    · -- the carriage return makes the text too long
      intro hjoined
      have hlength := congrArg List.length hjoined.text
      rw [htext, content_append_pair hu, h] at hlength
      simp at hlength
    · intro _
      rw [hlines, h]
      rw [List.set_append_right _ _ (Nat.le_refl _), List.eraseIdx_append_of_length_le (Nat.le_add_right _ _)]
      simp

theorem joined_iff_mixed
    : ∃ e e' : Editor, e.text = "a\r\nb\nc".toList ∧ FeedEnds e.document.text
      ∧ 2 < e.document.lineCount ∧ e.caret = ⟨2, 0⟩
      ∧ e.deleteBackward? = some e' ∧ e'.caret = ⟨1, 1⟩
      ∧ e.document.Joined e'.document 1 "b\n".toList "c".toList := by
  have hbreaks : FeedEnds "a\r\nb\nc".toList := by decide
  let e : Editor := { document := { text := "a\r\nb\nc".toList }, caret := ⟨2, 0⟩ }
  obtain ⟨p, q, e', hp, hq, hdelete, hcaret, hjoined, -⟩ :=
    joined_iff (e := e) hbreaks (by decide : 1 + 1 < e.document.lineCount) rfl
  have hp' : p = "b\n".toList := Option.some.inj (hp.symm.trans (by decide))
  have hq' : q = "c".toList := Option.some.inj (hq.symm.trans (by decide))
  subst hp' hq'
  exact ⟨e, e', rfl, hbreaks, by decide, rfl, hdelete, hcaret, hjoined.2 (by decide)⟩

theorem return_stays
    : ∃ e e' : Editor, e.text = "a\r\nb".toList ∧ FeedEnds e.document.text ∧ e.caret = ⟨1, 0⟩
      ∧ e.deleteBackward? = some e' ∧ e'.text = "a\rb".toList ∧ e'.caret = ⟨0, 1⟩
      ∧ e.document.lineCount = 2 ∧ e'.document.lineCount = 2
      ∧ ¬ e.document.Joined e'.document 0 "a\r\n".toList "b".toList := by
  let e : Editor := { document := { text := "a\r\nb".toList }, caret := ⟨1, 0⟩ }
  let e' : Editor := { document := { text := "a\rb".toList, dirty := true }, caret := ⟨0, 1⟩ }
  have hcount : e.document.lineCount = 2 := by decide
  have hcount' : e'.document.lineCount = 2 := by decide
  refine ⟨e, e', rfl, by decide, rfl, by decide, rfl, rfl, hcount, hcount', ?_⟩
  intro hjoined
  have hless := hjoined.lineCount
  rw [hcount, hcount'] at hless
  contradiction

end Editor

end Workbench
