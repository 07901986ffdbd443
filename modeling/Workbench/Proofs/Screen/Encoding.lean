import Workbench.Proofs.Text.Split
import Workbench.Screen.Terminal

/-!
The escape sequences of the commands: a terminal that reads them carries out the commands, if no text holds
a control character.
-/

namespace Workbench

def Text.Printed (text : List Char) : Prop :=
  ∀ c ∈ text, Terminal.isControl c = false

instance (text : List Char) : Decidable (Text.Printed text) :=
  List.decidableBAll _ text

def TerminalCommand.Legible : TerminalCommand → Prop
  | print text => Text.Printed text
  | _ => True

namespace Terminal

variable {t : Terminal}

theorem foldl_receive_sequence {ps parameters : List Char} (hps : ∀ c ∈ ps, isFinal c = false)
    : ps.foldl receive (t, .sequence parameters) = (t, .sequence (parameters ++ ps)) := by
  induction ps generalizing parameters with
  | nil =>
    rw [List.append_nil]
    rfl
  | cons c ps ih =>
    rw [List.forall_mem_cons] at hps
    rw [List.foldl_cons]
    have hc : receive (t, .sequence parameters) c = (t, .sequence (parameters ++ [c])) := by
      unfold receive
      dsimp only
      rw [hps.1]
      rfl
    rw [hc]
    rw [ih hps.2]
    rw [List.append_assoc]
    rfl

theorem foldl_receive_obey {ps : List Char} {final : Char} (hps : ∀ c ∈ ps, isFinal c = false)
    (hfinal : isFinal final = true)
    : ('\x1b' :: '[' :: (ps ++ [final])).foldl receive (t, .text) = (t.obey ps final, .text) := by
  have hstart : ('\x1b' :: '[' :: (ps ++ [final])).foldl receive (t, .text)
      = (ps ++ [final]).foldl receive (t, .sequence []) := rfl
  rw [hstart]
  rw [List.foldl_append]
  rw [foldl_receive_sequence hps]
  rw [List.foldl_cons]
  unfold receive
  dsimp only
  rw [hfinal]
  rfl

theorem foldl_receive_print {text : List Char} (h : Text.Printed text)
    : text.foldl receive (t, .text) = (text.foldl put t, .text) := by
  unfold Text.Printed at h
  induction text generalizing t with
  | nil => rfl
  | cons c text ih =>
    rw [List.forall_mem_cons] at h
    rw [List.foldl_cons]
    have hc : receive (t, .text) c = (t.put c, .text) := by
      have hne : c ≠ '\x1b' := by
        rintro rfl
        exact absurd h.1 (by decide)
      unfold receive
      dsimp only
      rw [if_neg hne]
      rw [h.1]
      rfl
    rw [hc]
    rw [ih h.2]
    rfl

theorem isFinal_of_mem_toDigits {n : Nat} {c : Char} (h : c ∈ Nat.toDigits 10 n) : isFinal c = false := by
  have hdigit := Nat.isDigit_of_mem_toDigits (by decide) (by decide) h
  unfold Char.isDigit at hdigit
  unfold isFinal
  rw [Bool.and_eq_true, decide_eq_true_iff, decide_eq_true_iff] at hdigit
  rw [Bool.and_eq_false_iff]
  left
  rw [decide_eq_false_iff_not]
  have hlt : c.val < '@'.val := Nat.lt_of_le_of_lt hdigit.2 (by decide)
  exact Nat.not_le_of_lt hlt

theorem not_mem_toDigits (n : Nat) : ';' ∉ Nat.toDigits 10 n := by
  intro h
  have hdigit := Nat.isDigit_of_mem_toDigits (by decide) (by decide) h
  exact absurd hdigit (by decide)

theorem numbers_toDigits (n : Nat) : numbers (Nat.toDigits 10 n) = [n] := by
  unfold numbers
  rw [Text.splitAt_of_not_mem (not_mem_toDigits n)]
  rw [List.map_singleton, Nat.ofDigitChars_ten_toDigits]

theorem numbers_toDigits_append (n : Nat) (ps : List Char)
    : numbers (Nat.toDigits 10 n ++ ';' :: ps) = n :: numbers ps := by
  unfold numbers
  rw [Text.splitAt_append_sep (not_mem_toDigits n)]
  rw [List.map_cons, Nat.ofDigitChars_ten_toDigits]

theorem toList_moveTo (x y : Nat)
    : (TerminalCommand.moveTo x y).encode.toList
        = '\x1b' :: '[' :: (Nat.toDigits 10 (y + 1) ++ ';' :: Nat.toDigits 10 (x + 1) ++ ['H']) := by
  simp [TerminalCommand.encode, TerminalCommand.sequence]
  rfl

theorem foldl_receive_moveTo (x y : Nat)
    : (TerminalCommand.moveTo x y).encode.toList.foldl receive (t, .text) = (t.moveTo x y, .text) := by
  rw [toList_moveTo]
  rw [foldl_receive_obey]
  · unfold obey
    rw [numbers_toDigits_append, numbers_toDigits]
    rfl
  · intro c hc
    simp only [List.mem_append, List.mem_cons] at hc
    rcases hc with hc | rfl | hc
    · exact isFinal_of_mem_toDigits hc
    · decide
    · exact isFinal_of_mem_toDigits hc
  · decide

theorem toList_colorParts (color : Color)
    : (TerminalCommand.colorParts color).toList
        = Nat.toDigits 10 color.red.toNat ++ ';' ::
            (Nat.toDigits 10 color.green.toNat ++ ';' :: Nat.toDigits 10 color.blue.toNat) := by
  simp [TerminalCommand.colorParts]
  rfl

theorem isFinal_of_mem_colorParts {color : Color} {c : Char} (h : c ∈ (TerminalCommand.colorParts color).toList)
    : isFinal c = false := by
  rw [toList_colorParts] at h
  simp only [List.mem_append, List.mem_cons] at h
  rcases h with h | rfl | h | rfl | h
  · exact isFinal_of_mem_toDigits h
  · decide
  · exact isFinal_of_mem_toDigits h
  · decide
  · exact isFinal_of_mem_toDigits h

theorem numbers_colorParts (color : Color)
    : numbers (TerminalCommand.colorParts color).toList
        = [color.red.toNat, color.green.toNat, color.blue.toNat] := by
  rw [toList_colorParts]
  rw [numbers_toDigits_append, numbers_toDigits_append, numbers_toDigits]

theorem foldl_receive_color {n : Nat} {lead : String} (color : Color)
    (hlead : lead.toList = Nat.toDigits 10 n ++ ';' :: (Nat.toDigits 10 2 ++ [';']))
    : (TerminalCommand.sequence (lead ++ TerminalCommand.colorParts color ++ "m")).toList.foldl receive (t, .text)
        = ({ t with pen := t.pen.select [n, 2, color.red.toNat, color.green.toNat, color.blue.toNat] },
            .text) := by
  have hlist : (TerminalCommand.sequence (lead ++ TerminalCommand.colorParts color ++ "m")).toList
      = '\x1b' :: '[' :: (Nat.toDigits 10 n ++ ';' ::
          (Nat.toDigits 10 2 ++ ';' :: (TerminalCommand.colorParts color).toList) ++ ['m']) := by
    simp [TerminalCommand.sequence, hlead]
  rw [hlist]
  rw [foldl_receive_obey]
  · unfold obey
    rw [numbers_toDigits_append, numbers_toDigits_append, numbers_colorParts]
    rfl
  · intro c hc
    simp only [List.mem_append, List.mem_cons] at hc
    rcases hc with hc | rfl | hc | rfl | hc
    · exact isFinal_of_mem_toDigits hc
    · decide
    · exact isFinal_of_mem_toDigits hc
    · decide
    · exact isFinal_of_mem_colorParts hc
  · decide

theorem foldl_receive_encode {c : TerminalCommand} (h : c.Legible)
    : c.encode.toList.foldl receive (t, .text) = (t.exec c, .text) := by
  cases c with
  | moveTo x y => exact foldl_receive_moveTo x y
  | foreground color =>
    refine (foldl_receive_color (n := 38) color rfl).trans ?_
    simp only [Pen.select, UInt8.ofNat_toNat]
    rfl
  | background color =>
    refine (foldl_receive_color (n := 48) color rfl).trans ?_
    simp only [Pen.select, UInt8.ofNat_toNat]
    rfl
  | print text =>
    unfold TerminalCommand.encode
    rw [String.toList_ofList]
    exact foldl_receive_print h
  | cursorShape shape =>
    cases shape with
    | standard | steadyBlock | blinkingBar => rfl
  | resetStyle | bold | italic | underlined | clearLine | clearScreen | hideCursor | showCursor
  | enterAlternateScreen | leaveAlternateScreen | disableLineWrap | enableLineWrap => rfl

theorem foldl_receive_encodeAll {cs : List TerminalCommand} (h : ∀ c ∈ cs, c.Legible)
    : (TerminalCommand.encodeAll cs).toList.foldl receive (t, .text) = (t.execAll cs, .text) := by
  unfold TerminalCommand.encodeAll
  induction cs generalizing t with
  | nil => rfl
  | cons c cs ih =>
    rw [List.forall_mem_cons] at h
    rw [List.map_cons, String.join_cons, String.toList_append, List.foldl_append]
    rw [foldl_receive_encode h.1]
    rw [ih h.2]
    rfl

theorem feed_encodeAll {cs : List TerminalCommand} (h : ∀ c ∈ cs, c.Legible)
    : t.feed (TerminalCommand.encodeAll cs) = t.execAll cs :=
  congrArg Prod.fst (foldl_receive_encodeAll h)

end Terminal

end Workbench
