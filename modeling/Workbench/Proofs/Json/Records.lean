import Workbench.Json.Record
import Workbench.Proofs.Json.Skipping

/-!
The texts of lists of strings and of records with one field that is a string. An object is a record if just
one of its members has the name of the field; the others may be anything. So is an array of the field alone.
-/

namespace Workbench.Json

/-- The members of an object, of which just one has the name. Whether it has come already is told. -/
inductive FieldMembers (name s : List Char) : Bool → Bool → List Char → List Char → Prop where
  | done {first : Bool} {cs rest : List Char} (h : Blanks cs ('\x7d' :: rest))
      : FieldMembers name s true first cs rest
  | field {first : Bool} {cs cs₁ cs₂ cs₃ cs₄ cs₅ cs₆ rest : List Char} (hcomma : Comma first cs cs₁)
      (hquote : Blanks cs₁ ('"' :: cs₂)) (hname : SpellsText name cs₂ cs₃) (hcolon : Blanks cs₃ (':' :: cs₄))
      (hquote' : Blanks cs₄ ('"' :: cs₅)) (htext : SpellsText s cs₅ cs₆)
      (h : FieldMembers name s true false cs₆ rest)
      : FieldMembers name s false first cs rest
  | other {found first : Bool} {name' cs cs₁ cs₂ cs₃ cs₄ cs₅ rest : List Char} (hcomma : Comma first cs cs₁)
      (hquote : Blanks cs₁ ('"' :: cs₂)) (hname : SpellsText name' cs₂ cs₃) (hne : name' ≠ name)
      (hcolon : Blanks cs₃ (':' :: cs₄)) (hv : AnyValue cs₄ cs₅) (h : FieldMembers name s found false cs₅ rest)
      : FieldMembers name s found first cs rest

inductive RecordText (name s : List Char) : List Char → Prop where
  | array {text cs₁ cs₂ cs₃ cs₄ : List Char} (hopen : Blanks text ('[' :: cs₁))
      (hquote : Blanks cs₁ ('"' :: cs₂)) (htext : SpellsText s cs₂ cs₃) (hclose : Blanks cs₃ (']' :: cs₄)) (hend : Blanks cs₄ [])
      : RecordText name s text
  | object {text cs rest : List Char} (hopen : Blanks text ('\x7b' :: cs))
      (h : FieldMembers name s false true cs rest) (hend : Blanks rest [])
      : RecordText name s text

theorem readText_iff {s cs rest : List Char}
    : readText cs = .ok (s, rest) ↔ ∃ cs', Blanks cs ('"' :: cs') ∧ SpellsText s cs' rest := by
  constructor
  · intro h
    unfold readText at h
    split at h
    next cs' hquote => exact ⟨cs', blanks_of_skipBlanks hquote, readString_iff.1 h⟩
    next => cases h
  · rintro ⟨cs', hquote, htext⟩
    unfold readText
    rw [skipBlanks_eq_cons rfl hquote]
    exact readString_iff.2 htext

theorem readColon_iff {cs rest : List Char} : readColon cs = .ok rest ↔ Blanks cs (':' :: rest) := by
  constructor
  · intro h
    unfold readColon at h
    split at h
    next => cases h
    next hcolon =>
      cases h
      exact blanks_of_skipBlanks hcolon
    next => cases h
  · intro h
    unfold readColon
    rw [skipBlanks_eq_cons rfl h]
    rfl

theorem readListEnd_iff {cs rest : List Char} : readListEnd cs = (none, rest) ↔ Blanks cs (']' :: rest) := by
  constructor
  · intro h
    unfold readListEnd at h
    split at h
    next => cases h
    next hend =>
      cases h
      exact blanks_of_skipBlanks hend
    next =>
      split at h
      next => cases h
      next => cases h
    next => cases h
  · intro h
    unfold readListEnd
    rw [skipBlanks_eq_cons rfl h]
    rfl

theorem readObjectEnd_iff {cs rest : List Char}
    : readObjectEnd cs = (none, rest) ↔ Blanks cs ('\x7d' :: rest) := by
  constructor
  · intro h
    unfold readObjectEnd at h
    split at h
    next => cases h
    next hend =>
      cases h
      exact blanks_of_skipBlanks hend
    next => cases h
    next => cases h
  · intro h
    unfold readObjectEnd
    rw [skipBlanks_eq_cons rfl h]
    rfl

theorem finish_eq_ok {α : Type} {value : Except Fault α} {ending : Option Fault × List Char} {a : α}
    {rest : List Char}
    : finish value ending = .ok (a, rest) ↔ value = .ok a ∧ ending = (none, rest) := by
  obtain ⟨fault?, rest'⟩ := ending
  cases value with
  | error fault => simp [finish]
  | ok a' =>
    cases fault? with
    | some fault => simp [finish]
    | none => simp [finish]

theorem readAll_iff {α : Type} {read : List Char → Reading α} {text : List Char} {a : α}
    : readAll read text = .ok a ↔ ∃ rest, read text = .ok (a, rest) ∧ Blanks rest [] := by
  constructor
  · intro h
    unfold readAll at h
    split at h
    next => cases h
    next rest hread =>
      split at h
      next hend =>
        cases h
        exact ⟨rest, hread, blanks_of_skipBlanks hend⟩
      next => cases h
  · rintro ⟨rest, hread, hend⟩
    unfold readAll
    rw [hread]
    dsimp only
    rw [skipBlanks_of_blanks hend]
    rfl

theorem nextItem?_eq_some {first : Bool} {cs item : List Char} (h : nextItem? first cs = .ok (some item))
    : ∃ cs', Comma first cs cs' ∧ Blanks cs' item := by
  unfold nextItem? at h
  split at h
  next => cases h
  next => cases h
  next c rest _ hcs =>
    have hblanks := blanks_of_skipBlanks hcs
    split_ifs at h with hfirst hcomma
    · cases h
      subst hfirst
      exact ⟨cs, .first, hblanks⟩
    · subst hcomma
      rw [Bool.not_eq_true] at hfirst
      subst hfirst
      split at h
      next => cases h
      next => cases h
      next =>
        cases h
        exact ⟨rest, .next hblanks, blanks_skipBlanks rest⟩

theorem nextItem?_eq_none {first : Bool} {cs : List Char}
    : nextItem? first cs = .ok none ↔ ∃ rest, Blanks cs (']' :: rest) := by
  constructor
  · intro h
    unfold nextItem? at h
    split at h
    next => cases h
    next rest hend => exact ⟨rest, blanks_of_skipBlanks hend⟩
    next =>
      split_ifs at h
      · cases h
      · split at h
        next => cases h
        next => cases h
        next => cases h
  · rintro ⟨rest, hend⟩
    unfold nextItem?
    rw [skipBlanks_eq_cons rfl hend]
    rfl

theorem nextItem?_of_comma {first : Bool} {cs cs₁ cs₂ : List Char} (hcomma : Comma first cs cs₁)
    (hquote : Blanks cs₁ ('"' :: cs₂))
    : nextItem? first cs = .ok (some ('"' :: cs₂)) := by
  unfold nextItem?
  cases hcomma with
  | first =>
    rw [skipBlanks_eq_cons rfl hquote]
    rfl
  | next h =>
    rw [skipBlanks_eq_cons rfl h]
    split
    next heq => cases heq
    next heq => simp at heq
    next c rest _ heq =>
      cases heq
      rw [skipBlanks_eq_cons rfl hquote]
      rfl

theorem map_eq_ok {α β : Type} {f : α → β} {reading : Except ReadError α} {b : β}
    : reading.map f = .ok b ↔ ∃ a, reading = .ok a ∧ f a = b := by
  cases reading with
  | error e => simp [Except.map]
  | ok a => simp [Except.map]

theorem readItems_eq_nil {first : Bool} {cs cs' : List Char}
    : readItems first cs = .ok ([], cs') ↔ nextItem? first cs = .ok none ∧ cs' = cs := by
  rw [readItems]
  split
  next he => simp [he]
  next he => simp [he, eq_comm]
  next he =>
    split
    next => simp [he]
    next => simp [he, map_eq_ok]

theorem readItems_eq_cons {first : Bool} {s : List Char} {items : List (List Char)} {cs cs' : List Char}
    : readItems first cs = .ok (s :: items, cs')
        ↔ ∃ item rest, nextItem? first cs = .ok (some item) ∧ readText item = .ok (s, rest) ∧
          readItems false rest = .ok (items, cs') := by
  rw [readItems]
  split
  next he => simp [he]
  next he => simp [he]
  next he =>
    split
    next htext => simp [he, htext]
    next htext =>
      simp [he, htext, map_eq_ok]
      grind

theorem readItems_iff {names : List String} {first : Bool} {cs rest : List Char}
    : (∃ cs', readItems first cs = .ok (names.map String.toList, cs') ∧ Blanks cs' (']' :: rest))
        ↔ SpellsItems first (names.map .str) cs rest := by
  induction names generalizing first cs with
  | nil =>
    simp only [List.map_nil]
    constructor
    · rintro ⟨cs', hitems, hend⟩
      obtain ⟨hnone, rfl⟩ := readItems_eq_nil.1 hitems
      exact .nil hend
    · intro h
      cases h with
      | nil hend => exact ⟨cs, readItems_eq_nil.2 ⟨nextItem?_eq_none.2 ⟨rest, hend⟩, rfl⟩, hend⟩
  | cons name names ih =>
    simp only [List.map_cons]
    constructor
    · rintro ⟨cs', hitems, hend⟩
      obtain ⟨item, rest', hnext, htext, hitems⟩ := readItems_eq_cons.1 hitems
      obtain ⟨cs₁, hcomma, hblanks⟩ := nextItem?_eq_some hnext
      obtain ⟨cs₂, hquote, htext⟩ := readText_iff.1 htext
      exact .cons hcomma (hblanks.trans hquote) (.str htext) (ih.1 ⟨cs', hitems, hend⟩)
    · intro h
      cases h with
      | cons hcomma hblanks hv h =>
        cases hv with
        | str htext =>
          obtain ⟨cs', hitems, hend⟩ := ih.2 h
          have hnext := nextItem?_of_comma hcomma hblanks
          have htext := readText_iff.2 ⟨_, .done, htext⟩
          exact ⟨cs', readItems_eq_cons.2 ⟨_, _, hnext, htext, hitems⟩, hend⟩

theorem map_toList_ofList (items : List (List Char)) : (items.map String.ofList).map String.toList = items := by
  rw [List.map_map]
  exact (List.map_congr_left fun s _ => String.toList_ofList).trans (List.map_id items)

theorem readTexts_iff {names : List String} {text : List Char}
    : readAll readTexts text = .ok (names.map String.toList) ↔ IsTextOf text (.arr (names.map .str)) := by
  rw [readAll_iff]
  constructor
  · rintro ⟨rest, hread, hend⟩
    unfold readTexts at hread
    split at hread
    next cs hopen =>
      split at hread
      next => cases hread
      next hitems =>
        obtain ⟨hvalue, hclose⟩ := finish_eq_ok.1 hread
        cases hvalue
        have hspells := readItems_iff.1 ⟨_, hitems, readListEnd_iff.1 hclose⟩
        exact ⟨_, rest, blanks_of_skipBlanks hopen, .arr hspells, hend⟩
    next => cases hread
  · rintro ⟨cs, rest, hopen, hspells, hend⟩
    refine ⟨rest, ?_, hend⟩
    cases hspells with
    | arr h =>
      obtain ⟨cs', hitems, hclose⟩ := readItems_iff.2 h
      unfold readTexts
      rw [skipBlanks_eq_cons rfl hopen]
      simp only [hitems]
      exact finish_eq_ok.2 ⟨rfl, readListEnd_iff.2 hclose⟩

theorem nextKey?_eq_some {first : Bool} {cs key : List Char}
    : nextKey? first cs = .ok (some key) ↔ ∃ cs', Comma first cs cs' ∧ Blanks cs' ('"' :: key) := by
  constructor
  · intro h
    unfold nextKey? at h
    split at h
    next => cases h
    next => cases h
    next c rest _ hcs =>
      have hblanks := blanks_of_skipBlanks hcs
      split_ifs at h with hfirst hquote hcomma
      · cases h
        subst hfirst hquote
        exact ⟨cs, .first, hblanks⟩
      · subst hcomma
        rw [Bool.not_eq_true] at hfirst
        subst hfirst
        split at h
        next => cases h
        next hquote =>
          cases h
          exact ⟨rest, .next hblanks, blanks_of_skipBlanks hquote⟩
        next => cases h
        next => cases h
  · rintro ⟨cs', hcomma, hquote⟩
    unfold nextKey?
    cases hcomma with
    | first =>
      rw [skipBlanks_eq_cons rfl hquote]
      rfl
    | next h =>
      rw [skipBlanks_eq_cons rfl h]
      split
      next heq => cases heq
      next heq => simp at heq
      next c rest _ heq =>
        cases heq
        rw [skipBlanks_eq_cons rfl hquote]
        rfl

theorem nextKey?_eq_none {first : Bool} {cs : List Char}
    : nextKey? first cs = .ok none ↔ ∃ rest, Blanks cs ('\x7d' :: rest) := by
  constructor
  · intro h
    unfold nextKey? at h
    split at h
    next => cases h
    next rest hend => exact ⟨rest, blanks_of_skipBlanks hend⟩
    next =>
      split_ifs at h
      · cases h
      · split at h
        next => cases h
        next => cases h
        next => cases h
        next => cases h
  · rintro ⟨rest, hend⟩
    unfold nextKey?
    rw [skipBlanks_eq_cons rfl hend]
    rfl

theorem fieldMembers_of_readMembers {r : RecordForm} {found? : Option (List Char)} {first : Bool}
    {s cs cs' rest : List Char} (h : readMembers r found? first cs = .ok (.ok s, cs'))
    (hend : Blanks cs' ('\x7d' :: rest))
    : FieldMembers r.field.toList s found?.isSome first cs rest ∧ ∀ v ∈ found?, v = s := by
  fun_induction readMembers r found? first cs with
  | case1 => cases h
  | case2 found? first cs hnext =>
    cases found? with
    | none => cases h
    | some v =>
      cases h
      exact ⟨.done hend, fun v hv => (Option.some.inj hv).symm⟩
  | case3 => cases h
  | case4 => cases h
  | case5 => cases h
  | case6 => cases h
  | case7 found? first cs key hkey cs₃ cs₄ hcolon value cs₆ htext hname hfound ih =>
    cases found? with
    | some v => exact absurd ⟨rfl, rfl⟩ hfound
    | none =>
      obtain ⟨cs₁, hcomma, hquote⟩ := nextKey?_eq_some.1 hkey
      obtain ⟨cs₅, hquote', htext⟩ := readText_iff.1 htext
      obtain ⟨hmembers, hvalue⟩ := ih h
      rw [hvalue value rfl] at htext
      refine ⟨?_, fun v hv => nomatch hv⟩
      exact .field hcomma hquote (readString_iff.1 hname) (readColon_iff.1 hcolon) hquote' htext hmembers
  | case8 => cases h
  | case9 found? first cs key hkey name cs₃ hname hfound cs₄ hcolon hne cs₅ hskip ih =>
    obtain ⟨cs₁, hcomma, hquote⟩ := nextKey?_eq_some.1 hkey
    obtain ⟨hmembers, hvalue⟩ := ih h
    refine ⟨?_, hvalue⟩
    exact .other hcomma hquote (readString_iff.1 hname) hne (readColon_iff.1 hcolon) (skipValue_iff.1 hskip)
      hmembers

theorem readMembers_done {r : RecordForm} {first : Bool} {s cs rest : List Char}
    (h : Blanks cs ('\x7d' :: rest))
    : readMembers r (some s) first cs = .ok (.ok s, cs) := by
  have hkey : nextKey? first cs = .ok none := nextKey?_eq_none.2 ⟨rest, h⟩
  rw [readMembers]
  grind

theorem readMembers_field {r : RecordForm} {first : Bool} {s cs cs₁ cs₂ cs₃ cs₄ cs₅ cs₆ : List Char}
    (hcomma : Comma first cs cs₁) (hquote : Blanks cs₁ ('"' :: cs₂)) (hname : SpellsText r.field.toList cs₂ cs₃)
    (hcolon : Blanks cs₃ (':' :: cs₄)) (hquote' : Blanks cs₄ ('"' :: cs₅)) (htext : SpellsText s cs₅ cs₆)
    : readMembers r none first cs = readMembers r (some s) false cs₆ := by
  have hkey : nextKey? first cs = .ok (some cs₂) := nextKey?_eq_some.2 ⟨cs₁, hcomma, hquote⟩
  have hvalue : readText cs₄ = .ok (s, cs₆) := readText_iff.2 ⟨cs₅, hquote', htext⟩
  rw [← readString_iff] at hname
  rw [← readColon_iff] at hcolon
  rw [readMembers]
  grind

theorem readMembers_other {r : RecordForm} {found? : Option (List Char)} {first : Bool}
    {name cs cs₁ cs₂ cs₃ cs₄ cs₅ : List Char} (hcomma : Comma first cs cs₁) (hquote : Blanks cs₁ ('"' :: cs₂))
    (hname : SpellsText name cs₂ cs₃) (hne : name ≠ r.field.toList) (hcolon : Blanks cs₃ (':' :: cs₄))
    (hv : AnyValue cs₄ cs₅)
    : readMembers r found? first cs = readMembers r found? false cs₅ := by
  have hkey : nextKey? first cs = .ok (some cs₂) := nextKey?_eq_some.2 ⟨cs₁, hcomma, hquote⟩
  rw [← readString_iff] at hname
  rw [← readColon_iff] at hcolon
  rw [← skipValue_iff] at hv
  rw [readMembers]
  grind

theorem readMembers_of_fieldMembers {r : RecordForm} {found first : Bool} {s cs rest : List Char}
    (h : FieldMembers r.field.toList s found first cs rest)
    : ∃ cs', readMembers r (if found then some s else none) first cs = .ok (.ok s, cs') ∧
        Blanks cs' ('\x7d' :: rest) := by
  induction h with
  | @done first cs rest h => exact ⟨cs, readMembers_done h, h⟩
  | field hcomma hquote hname hcolon hquote' htext h ih =>
    obtain ⟨cs', hmembers, hend⟩ := ih
    exact ⟨cs', (readMembers_field hcomma hquote hname hcolon hquote' htext).trans hmembers, hend⟩
  | other hcomma hquote hname hne hcolon hv h ih =>
    obtain ⟨cs', hmembers, hend⟩ := ih
    exact ⟨cs', (readMembers_other hcomma hquote hname hne hcolon hv).trans hmembers, hend⟩

theorem readRecord_iff {r : RecordForm} {s text : List Char}
    : readAll (readRecord r) text = .ok s ↔ RecordText r.field.toList s text := by
  rw [readAll_iff]
  constructor
  · rintro ⟨rest, hread, hend⟩
    unfold readRecord at hread
    split at hread
    next cs hopen =>
      split at hread
      next => cases hread
      next hvalue =>
        obtain ⟨rfl, hclose⟩ := finish_eq_ok.1 hread
        rw [readListEnd_iff] at hclose
        unfold readOnlyItem at hvalue
        split at hvalue
        next => cases hvalue
        next => cases hvalue
        next hitem =>
          obtain ⟨⟨_, _⟩, htext, hpair⟩ := map_eq_ok.1 hvalue
          cases hpair
          obtain ⟨cs₁, hcomma, hblanks⟩ := nextItem?_eq_some hitem
          obtain ⟨cs₂, hquote, htext⟩ := readText_iff.1 htext
          cases hcomma with
          | first => exact .array (blanks_of_skipBlanks hopen) (hblanks.trans hquote) htext hclose hend
    next cs hopen =>
      split at hread
      next => cases hread
      next hmembers =>
        obtain ⟨rfl, hclose⟩ := finish_eq_ok.1 hread
        have hfield := (fieldMembers_of_readMembers hmembers (readObjectEnd_iff.1 hclose)).1
        exact .object (blanks_of_skipBlanks hopen) hfield hend
    next => cases hread
  · intro h
    cases h with
    | @array cs₁ cs₂ cs₃ cs₄ hopen hquote htext hclose hend =>
      refine ⟨cs₄, ?_, hend⟩
      have hitem : nextItem? true cs₁ = .ok (some ('"' :: cs₂)) := nextItem?_of_comma .first hquote
      have hvalue : readText ('"' :: cs₂) = .ok (s, cs₃) := readText_iff.2 ⟨cs₂, .done, htext⟩
      have honly : readOnlyItem r cs₁ = .ok (.ok s, cs₃) := by
        unfold readOnlyItem
        rw [hitem]
        dsimp only
        rw [hvalue]
        rfl
      unfold readRecord
      rw [skipBlanks_eq_cons rfl hopen]
      simp only [honly]
      exact finish_eq_ok.2 ⟨rfl, readListEnd_iff.2 hclose⟩
    | @object cs rest hopen hfield hend =>
      refine ⟨rest, ?_, hend⟩
      obtain ⟨cs', hmembers, hclose⟩ := readMembers_of_fieldMembers hfield
      rw [if_neg Bool.false_ne_true] at hmembers
      unfold readRecord
      rw [skipBlanks_eq_cons rfl hopen]
      simp only [hmembers]
      exact finish_eq_ok.2 ⟨rfl, readObjectEnd_iff.2 hclose⟩

theorem recordText_of_isTextOf {name s : String} {text : List Char} (h : IsTextOf text (.obj [(name, .str s)]))
    : RecordText name.toList s.toList text := by
  obtain ⟨cs, rest, hopen, hspells, hend⟩ := h
  cases hspells with
  | obj hmembers =>
    cases hmembers with
    | cons hcomma hquote hname hcolon hblanks hv h =>
      cases hv with
      | str htext =>
        cases h with
        | nil hclose =>
          exact .object hopen (.field hcomma hquote hname hcolon hblanks htext (.done hclose)) hend

end Workbench.Json
